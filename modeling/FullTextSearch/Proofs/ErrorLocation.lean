/-
# `FullTextSearch.Proofs.ErrorLocation` — where a search string is beyond repair.

A text is `Viable` while it can still be continued to a search string that is not malformed.  The
scanner reports the first offset at which that is lost: the text in front of the reported code point
is viable, and with that code point every text is refused, at the same offset.  Where the end of the
text is reported the text is viable itself, and it ends inside a distance.

One half is that nothing read so far is ever mended: a run that stops at a code point stops there
whatever follows (`run_of_breaks`).  The other half is that every mode in which a run can be has a
way out (`exists_completion`): an open word or quote may end, and an open distance holds digits, or
the dash of the short form, and needs at most a digit and its bracket.  The main statement is
`tokenize_eq_malformed_iff_beyondRepair`.
-/
import FullTextSearch.Proofs.Refusal

namespace FullTextSearch.Scan

open Grammar

/-! ## Viable texts -/

/-- A search string that is refused as malformed. -/
def IsMalformed (x : Text) : Prop :=
  ∃ named location, Token.tokenize x = .error (.malformedQuery named location)

/-- A text that some continuation keeps from being malformed. -/
def Viable (x : Text) : Prop := ∃ rest, ¬ IsMalformed (x ++ rest)

/-- A text that ends inside a distance: behind an opening, where a distance of one digit would be
read, stand digits or the dash of the short form. -/
def EndsInDistance (x : Text) : Prop :=
  ∃ bracket before opening content ts,
    x = before ++ opening ++ content ∧ Opening bracket opening ∧
    Spells (ts ++ [.around 1]) (before ++ opening ++ ['1', bracket.closer]) ∧
    (content.all Char.isDigit = true ∨ bracket = .angle ∧ content = ['-'])

/-- **The first offset at which a search string is beyond repair,** which is its length where it
only ends too early. -/
structure BeyondRepair (query : Text) (location : Nat) : Prop where
  within : location ≤ query.length
  viable_before : Viable (query.take location)
  refused_from : location < query.length → ∀ rest,
    Token.tokenize (query.take (location + 1) ++ rest) =
      .error (.malformedQuery (query.take (location + 1) ++ rest) location)
  atEnd_iff_viable : location = query.length ↔ Viable query
  atEnd_iff_endsInDistance : location = query.length ↔ EndsInDistance query

/-! ## Flaws and their offsets -/

theorem isMalformed_iff {x : Text} :
    IsMalformed x ↔ ∃ location, run 0 x (.text []) = .error (.misplaced location) := by
  constructor
  · rintro ⟨named, location, h⟩
    exact ⟨location, (tokenize_eq_malformed_iff.mp h).2⟩
  · rintro ⟨location, h⟩
    exact ⟨x, location, tokenize_eq_malformed_iff.mpr ⟨rfl, h⟩⟩

theorem ofDistance_offset {bracket : Bracket} {content : Text} {offset location : Nat}
    (h : ofDistance bracket content offset = .error (.misplaced location)) :
    location = offset := by
  unfold ofDistance at h
  split at h
  · cases h
  · split at h
    · split at h <;> cases h
    · cases h
      rfl

/-- A step reports its own offset. -/
theorem step_offset {offset location : Nat} {c : Char} {mode : Mode}
    (h : step offset c mode = .error (.misplaced location)) : location = offset := by
  cases mode with
  | text word =>
      obtain ⟨-, hflaw⟩ := stepText_eq_error_iff.mp h
      exact Flaw.misplaced.inj hflaw
  | quote content => cases h
  | distance bracket content =>
      have hdistance : stepDistance bracket content offset c = .error (.misplaced location) := h
      unfold stepDistance at hdistance
      split at hdistance
      · exact ofDistance_offset (eq_error_of_map hdistance)
      · split at hdistance
        · cases hdistance
        · split at hdistance <;> cases hdistance
          rfl

/-- A code point that no search string has behind what was passed. -/
def Breaks (passed : Text) (c : Char) : Prop :=
  ∃ done mode, advance 0 passed (.text []) = .ok (done, mode) ∧
    step passed.length c mode = .error (.misplaced passed.length)

/-- **What breaks a run breaks it whatever follows.** -/
theorem run_of_breaks {passed : Text} {c : Char} (h : Breaks passed c) (rest : Text) :
    run 0 (passed ++ c :: rest) (.text []) = .error (.misplaced passed.length) := by
  obtain ⟨done, mode, hpassed, hstep⟩ := h
  refine run_eq_error_iff.mpr (Or.inl ⟨passed, c, rest, done, mode, rfl, hpassed, ?_⟩)
  rwa [Nat.zero_add]

/-- A run is misplaced at a code point that breaks it, or at the end inside a distance. -/
theorem run_eq_misplaced_iff {x : Text} {location : Nat} :
    run 0 x (.text []) = .error (.misplaced location) ↔
      (∃ passed c rest, x = passed ++ c :: rest ∧ location = passed.length ∧ Breaks passed c) ∨
      location = x.length ∧ ∃ done bracket content,
        advance 0 x (.text []) = .ok (done, .distance bracket content) := by
  rw [run_eq_error_iff]
  constructor
  · rintro (⟨passed, c, rest, done, mode, rfl, hpassed, hstep⟩ | ⟨done, last, hpassed, hfinish⟩)
    · rw [Nat.zero_add] at hstep
      obtain rfl := step_offset hstep
      exact Or.inl ⟨passed, c, rest, rfl, rfl, done, mode, hpassed, hstep⟩
    · cases last with
      | text word => cases hfinish
      | quote content => cases hfinish
      | distance bracket content =>
          cases hfinish
          exact Or.inr ⟨Nat.zero_add _, done, bracket, content, hpassed⟩
  · rintro (⟨passed, c, rest, rfl, rfl, done, mode, hpassed, hstep⟩ |
      ⟨rfl, done, bracket, content, hpassed⟩)
    · exact Or.inl ⟨passed, c, rest, done, mode, rfl, hpassed, by rwa [Nat.zero_add]⟩
    · exact Or.inr ⟨done, _, hpassed, by rw [Nat.zero_add]; rfl⟩

/-! ## Ways out of a mode -/

/-- What lies behind a mode of a run lies behind a mode of every later one. -/
theorem exists_opens_of_advance {x : Text} {mode last : Mode} {behind : Text} {offset : Nat}
    {done : List Token} (hopens : Opens mode behind)
    (h : advance offset x mode = .ok (done, last)) : ∃ behind', Opens last behind' := by
  induction x generalizing offset mode behind done with
  | nil =>
      cases h
      exact ⟨behind, hopens⟩
  | cons c x ih =>
      obtain ⟨_, next, _, hstep, hrest, -⟩ := exists_of_advance_append (s := [c]) h
      rw [advance_singleton] at hstep
      obtain ⟨behind', hnext, -⟩ := continues_of_step hopens hstep
      exact ih hnext hrest

/-- A distance of digits is closed without a misplaced code point, be it too long or not. -/
theorem run_closer_ne_misplaced {bracket : Bracket} {digits : Text} (hne : digits ≠ [])
    (h : digits.all Char.isDigit = true) (offset location : Nat) :
    run offset [bracket.closer] (.distance bracket digits) ≠ .error (.misplaced location) := by
  have hclose : stepDistance bracket digits offset bracket.closer =
      (ofDistance bracket digits offset).map fun token => ([token], .text []) := if_pos rfl
  have hread : ofDistance bracket digits offset =
      if digits.length ≤ Numeral.maxDigits then .ok (.around (Numeral.value digits))
      else .error (.oversized digits.length) := by
    rw [ofDistance, if_neg (fun hdash => ne_dash_of_digits h hdash.1), if_pos ⟨hne, h⟩]
  rw [run_cons, step, hclose, hread]
  intro hrun
  by_cases hlength : digits.length ≤ Numeral.maxDigits
  · rw [if_pos hlength] at hrun
    cases hrun
  · rw [if_neg hlength] at hrun
    cases hrun

/-- One more digit and the bracket complete every distance of digits. -/
theorem run_digit_closer_ne_misplaced (bracket : Bracket) {digits : Text}
    (h : digits.all Char.isDigit = true) (offset location : Nat) :
    run offset ['1', bracket.closer] (.distance bracket digits) ≠
      .error (.misplaced location) := by
  have hone : advance offset ['1'] (.distance bracket digits) =
      .ok ([], .distance bracket (digits ++ ['1'])) := advance_digits (by decide) bracket digits h offset
  have hdigits : (digits ++ ['1']).all Char.isDigit = true := by
    rw [List.all_append, h]
    rfl
  rw [← List.singleton_append, run_append hone]
  intro hrun
  exact run_closer_ne_misplaced (by simp) hdigits _ location (eq_error_of_map hrun)

/-- **Every mode of a run has a way out.** -/
theorem exists_completion {mode : Mode} {behind : Text} (h : Opens mode behind) :
    ∃ rest, ∀ offset location, run offset rest mode ≠ .error (.misplaced location) := by
  cases h with
  | text bare | quote closed =>
      refine ⟨[], ?_⟩
      intro offset location hrun
      rw [run_nil] at hrun
      cases hrun
  | angle digits =>
      rcases digits with rfl | digits
      · -- the short form is complete with its bracket
        refine ⟨['>'], ?_⟩
        intro offset location hrun
        cases hrun
      · exact ⟨['1', '>'], run_digit_closer_ne_misplaced .angle digits⟩
  | paren keyword digits =>
      exact ⟨['1', ')'], run_digit_closer_ne_misplaced .paren digits⟩

/-- What the scanner passes is viable. -/
theorem viable_of_advance {passed : Text} {done : List Token} {mode : Mode}
    (h : advance 0 passed (.text []) = .ok (done, mode)) : Viable passed := by
  have hstart : Opens (.text []) [] := .text (by simp)
  obtain ⟨behind, hopens⟩ := exists_opens_of_advance hstart h
  obtain ⟨rest, hrest⟩ := exists_completion hopens
  refine ⟨rest, ?_⟩
  intro hmalformed
  obtain ⟨location, hrun⟩ := isMalformed_iff.mp hmalformed
  rw [run_append h] at hrun
  exact hrest _ location (eq_error_of_map hrun)

/-- What breaks a run is not viable. -/
theorem not_viable_of_breaks {passed : Text} {c : Char} (h : Breaks passed c) (rest : Text) :
    ¬ Viable (passed ++ c :: rest) := by
  rintro ⟨more, hmore⟩
  refine hmore (isMalformed_iff.mpr ⟨passed.length, ?_⟩)
  rw [List.append_assoc, List.cons_append]
  exact run_of_breaks h (rest ++ more)

/-! ## Texts that end inside a distance -/

/-- A text ends inside a distance exactly if the scanner does. -/
theorem endsInDistance_iff {x : Text} :
    EndsInDistance x ↔ ∃ done bracket content,
      advance 0 x (.text []) = .ok (done, .distance bracket content) := by
  constructor
  · rintro ⟨bracket, before, opening, content, ts, rfl, hopening, hspells, hcontent⟩
    obtain ⟨done, hopen⟩ := (exists_advance_opening_iff hopening before).mpr ⟨ts, hspells⟩
    refine ⟨done ++ [], bracket, content, advance_append_ok hopen ?_⟩
    rcases hcontent with hdigits | ⟨rfl, rfl⟩
    · exact advance_digits hdigits bracket [] rfl _
    · rfl
  · rintro ⟨done, bracket, content, hpassed⟩
    obtain ⟨before, opening, ts, hx, hopening, hspells⟩ := exists_opening_of_advance hpassed
    refine ⟨bracket, before, opening, content, ts, hx, hopening, hspells, ?_⟩
    have hstart : Opens (.text []) [] := .text (by simp)
    obtain ⟨behind, hopens⟩ := exists_opens_of_advance hstart hpassed
    cases hopens with
    | angle digits =>
        rcases digits with rfl | digits
        · exact Or.inr ⟨rfl, rfl⟩
        · exact Or.inl digits
    | paren keyword digits => exact Or.inl digits

/-- A text that breaks off inside a distance is refused at its end. -/
theorem run_of_endsInDistance {x : Text} (h : EndsInDistance x) :
    run 0 x (.text []) = .error (.misplaced x.length) :=
  run_eq_misplaced_iff.mpr (Or.inr ⟨rfl, endsInDistance_iff.mp h⟩)

/-! ## The reported offset -/

theorem beyondRepair_of_breaks {passed : Text} {c : Char} (h : Breaks passed c) (rest : Text) :
    BeyondRepair (passed ++ c :: rest) passed.length := by
  have hwithin : passed.length < (passed ++ c :: rest).length := by simp
  have htake : (passed ++ c :: rest).take passed.length = passed := List.take_left
  have htakeNext : (passed ++ c :: rest).take (passed.length + 1) = passed ++ [c] :=
    List.take_length_add_append 1
  refine ⟨Nat.le_of_lt hwithin, ?_, ?_, ?_, ?_⟩
  · obtain ⟨done, mode, hpassed, -⟩ := h
    rw [htake]
    exact viable_of_advance hpassed
  · intro _ more
    rw [htakeNext, List.append_assoc, List.singleton_append]
    exact tokenize_eq_malformed_iff.mpr ⟨rfl, run_of_breaks h more⟩
  · exact iff_of_false (Nat.ne_of_lt hwithin) (not_viable_of_breaks h rest)
  · refine iff_of_false (Nat.ne_of_lt hwithin) ?_
    intro hends
    have hlength := (run_of_endsInDistance hends).symm.trans (run_of_breaks h rest)
    exact Nat.ne_of_gt hwithin (Flaw.misplaced.inj (Except.error.inj hlength))

theorem beyondRepair_of_endsInDistance {x : Text} (h : EndsInDistance x) :
    BeyondRepair x x.length := by
  obtain ⟨done, bracket, content, hpassed⟩ := endsInDistance_iff.mp h
  have hviable := viable_of_advance hpassed
  refine ⟨Nat.le_refl _, ?_, ?_, iff_of_true rfl hviable, iff_of_true rfl h⟩
  · rwa [List.take_length]
  · intro hlt
    exact absurd hlt (Nat.lt_irrefl _)

/-- **A search string is malformed exactly where it is beyond repair.**  It is named in full, the
text in front of the reported offset is viable, the text up to and with it is refused there whatever
follows, and the length is reported exactly if the text is viable itself, which is when it ends
inside a distance. -/
theorem tokenize_eq_malformed_iff_beyondRepair (query named : Text) (location : Nat) :
    Token.tokenize query = .error (.malformedQuery named location) ↔
      named = query ∧ BeyondRepair query location := by
  constructor
  · intro h
    obtain ⟨hnamed, hrun⟩ := tokenize_eq_malformed_iff.mp h
    refine ⟨hnamed, ?_⟩
    rcases run_eq_misplaced_iff.mp hrun with ⟨passed, c, rest, rfl, rfl, hbreaks⟩ | ⟨rfl, hpassed⟩
    · exact beyondRepair_of_breaks hbreaks rest
    · exact beyondRepair_of_endsInDistance (endsInDistance_iff.mpr hpassed)
  · rintro ⟨rfl, h⟩
    rcases Nat.lt_or_eq_of_le h.within with hlt | rfl
    · have hrefused := h.refused_from hlt (named.drop (location + 1))
      rwa [List.take_append_drop] at hrefused
    · exact tokenize_eq_malformed_iff.mpr
        ⟨rfl, run_of_endsInDistance (h.atEnd_iff_endsInDistance.mp rfl)⟩

end FullTextSearch.Scan
