import IrcGateway.Decimal.Shortest
import IrcGateway.Text.Blank
import IrcGateway.Text.Case

/-!
# Links to maps

The map services a location can be linked to, the names they are chosen by, and the links.
-/

namespace IrcGateway.Map

open IrcGateway.Text IrcGateway.Decimal

inductive Provider where
  | openStreetMap
  | googleMaps
  | appleMaps
  deriving DecidableEq, Repr, Inhabited

namespace Provider

/-- The provider of exactly this name. -/
def ofKey? (key : String) : Option Provider :=
  if key = "openstreetmap" then some .openStreetMap
  else if key = "google-maps" then some .googleMaps
  else if key = "apple-maps" then some .appleMaps
  else none

/-- The form in which a name is looked up: without white space around it, in lower case. -/
def normal (name : String) : String :=
  lower (String.ofList (trim name.toList))

/-- The provider that a name means, short names included. -/
def ofName? (name : String) : Option Provider :=
  let name := normal name
  if name = "osm" then some .openStreetMap
  else if name = "google" then some .googleMaps
  else if name = "apple" then some .appleMaps
  else ofKey? name

/-- What is said about a name that means no provider. -/
def unknownMessage (name : String) : String :=
  "unknown map provider: " ++ normal name

/-- The address that shows a point on the provider's map. -/
def link (p : Provider) (latitude longitude : Float) : String :=
  let lat := plain latitude
  let lng := plain longitude
  match p with
  | .openStreetMap =>
    "https://www.openstreetmap.org/?mlat=" ++ lat ++ "&mlon=" ++ lng
      ++ "#map=16/" ++ lat ++ "/" ++ lng
  | .googleMaps => "https://maps.google.com/?q=" ++ lat ++ "," ++ lng
  | .appleMaps => "https://maps.apple.com/?ll=" ++ lat ++ "," ++ lng ++ "&q=" ++ lat ++ "," ++ lng

end Provider

end IrcGateway.Map
