import IrcGateway.Text.Blank
import IrcGateway.Text.Case
import IrcGateway.Text.Lines

/-!
# The extension of a media file

A file sent by the service is stored under an extension that tells its kind: the one its MIME type
stands for, or else the one its first bytes give away, or else the one its own name ends in.
-/

namespace IrcGateway.Media

open IrcGateway.Text

/-- MIME types and the extensions they stand for. -/
def mimeExtensions : List (String × String) :=
  [("image/jpeg", "jpg"), ("image/jpg", "jpg"), ("image/png", "png"), ("image/gif", "gif"),
    ("image/webp", "webp"), ("image/heic", "heic"), ("audio/ogg", "ogg"), ("audio/mpeg", "mp3"),
    ("audio/mp4", "m4a"), ("audio/aac", "aac"), ("audio/amr", "amr"), ("video/mp4", "mp4"),
    ("video/3gpp", "3gp"), ("video/quicktime", "mov"), ("application/pdf", "pdf"),
    ("application/zip", "zip"), ("application/msword", "doc"),
    ("application/vnd.openxmlformats-officedocument.wordprocessingml.document", "docx"),
    ("application/vnd.ms-excel", "xls"),
    ("application/vnd.openxmlformats-officedocument.spreadsheetml.sheet", "xlsx"),
    ("application/vnd.ms-powerpoint", "ppt"),
    ("application/vnd.openxmlformats-officedocument.presentationml.presentation", "pptx"),
    ("text/plain", "txt"), ("text/vcard", "vcf"), ("text/x-vcard", "vcf")]

/-- The extension of a MIME type. Parameters after a semicolon, white space around the type and the
case of its letters do not count. -/
def extensionOfMime? (mime : String) : Option String :=
  let essence := trim (mime.toList.takeWhile (· != ';'))
  mimeExtensions.lookup (lower (String.ofList essence))

/-- The extension that the first bytes of a file give away. -/
def extensionOfBytes? : List UInt8 → Option String
  | 0xFF :: 0xD8 :: 0xFF :: _ => some "jpg"
  | 0x89 :: 0x50 :: 0x4E :: 0x47 :: _ => some "png"
  | 0x47 :: 0x49 :: 0x46 :: 0x38 :: _ => some "gif"
  | 0x52 :: 0x49 :: 0x46 :: 0x46 :: _ :: _ :: _ :: _ :: 0x57 :: 0x45 :: 0x42 :: 0x50 :: _ =>
    some "webp"
  | 0x25 :: 0x50 :: 0x44 :: 0x46 :: _ => some "pdf"
  | 0x4F :: 0x67 :: 0x67 :: 0x53 :: _ => some "ogg"
  | _ :: _ :: _ :: _ :: 0x66 :: 0x74 :: 0x79 :: 0x70 :: _ => some "mp4"
  | _ => none

/-- The last component of a path, where a component is what slashes separate; empty components and
single dots are none. A path that ends in two dots names no file. -/
def fileName? (path : List Char) : Option (List Char) :=
  match ((pieces (· == '/') path).filter (fun p => !p.isEmpty && p != ['.'])).getLast? with
  | some ['.', '.'] => none
  | last => last

/-- What follows the last dot of a path's file name. A name whose only dot opens it has no
extension. -/
def extensionOfPath? (path : List Char) : Option (List Char) :=
  match fileName? path with
  | none => none
  | some name =>
    match splitAtFirst '.' name.reverse with
    | some (_, []) => none
    | some (reversed, _) => some reversed.reverse
    | none => none

/-- The extension a file is stored under; empty if nothing tells it. -/
def extension (mime : String) (bytes : List UInt8) (filename : String) : String :=
  match extensionOfMime? mime with
  | some e => e
  | none =>
    match extensionOfBytes? bytes with
    | some e => e
    | none => lower (String.ofList ((extensionOfPath? filename.toList).getD []))

end IrcGateway.Media
