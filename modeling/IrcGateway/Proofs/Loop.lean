/-!
# Loops that end

A loop repeats a round as long as there is one. `Finishes` says that it ends, after how many rounds
and where. What the rounds go through may be known beforehand (`Finishes.of_sequence`).
-/

namespace IrcGateway

variable {σ : Type}

/-- The loop ends: from the first state it takes this many rounds to the last one, where there is no
further round. -/
inductive Finishes (round : σ → Option σ) : Nat → σ → σ → Prop where
  | ended {s : σ} (h : round s = none) : Finishes round 0 s s
  | again {rounds : Nat} {s t last : σ} (h : round s = some t)
      (rest : Finishes round rounds t last) : Finishes round (rounds + 1) s last

/-- From states with the same next round a loop ends alike, unless it ends there. -/
theorem Finishes.of_round_eq {round : σ → Option σ} {rounds : Nat} {s t last : σ}
    (h : Finishes round rounds t last) (heq : round s = round t) :
    Finishes round rounds s last ∨ Finishes round rounds s s ∧ last = t := by
  cases h with
  | ended hnone => exact .inr ⟨.ended (heq.trans hnone), rfl⟩
  | again hnext rest => exact .inl (.again (heq.trans hnext) rest)

/-- A loop that goes through the states of a sequence up to one without a further round. -/
theorem Finishes.of_sequence {round : σ → Option σ} (state : Nat → σ) {rounds : Nat}
    (hround : ∀ i < rounds, round (state i) = some (state (i + 1)))
    (hover : round (state rounds) = none) : Finishes round rounds (state 0) (state rounds) := by
  -- on the number of rounds, for the sequence from its second state on
  induction rounds generalizing state with
  | zero => exact .ended hover
  | succ rounds ih =>
    have hlater : Finishes round rounds (state 1) (state (rounds + 1)) :=
      ih (fun i => state (i + 1)) (fun i hi => hround (i + 1) (Nat.succ_lt_succ hi)) hover
    exact .again (hround 0 (Nat.succ_pos rounds)) hlater

end IrcGateway
