/-
# `FullTextSearch.Proofs.JsonReading` — reading the JSON texts of a value.

Whichever of its texts is read, the value comes back, as long as no container stands deeper than the
reader follows (`read?_of_isTextOf`).

The reader is mutual recursion on fuel, and its grammar `Spells` is one relation over the parts of a
text, so one induction over the grammar carries all of its three functions (`reads_of_spells`): each
part is read off in front of any rest that may follow it (`Ends`), with as much fuel as the part is
long.  Under it stand one step for a code point of a string (`readString_append`), one for a number
(`readNumber?_ofInt`) and one for each way in which a container opens and goes on.
-/
import FullTextSearch.Proofs.JsonText
import FullTextSearch.Proofs.LastWrite

namespace FullTextSearch.Json

/-! ## Blanks

Every reader skips blanks before it looks at a text, so blanks in front of what it reads change
nothing.  Blanks behind a value stay with the rest. -/

/-- Blanks in front of a text are skipped. -/
theorem skipGap_append {gap : Text} (h : IsGap gap) (t : Text) :
    skipGap (gap ++ t) = skipGap t :=
  List.dropWhile_append_of_pos h

/-- Where a text opens with no blank nothing is skipped. -/
theorem skipGap_cons {c : Char} (h : isGap c = false) (t : Text) : skipGap (c :: t) = c :: t :=
  List.dropWhile_cons_of_neg (by simp [h])

/-- A value is read behind blanks as it is without them. -/
theorem readValue?_gap {gap : Text} (h : IsGap gap) (fuel nesting : Nat) (t : Text) :
    readValue? fuel nesting (gap ++ t) = readValue? fuel nesting t := by
  cases fuel with
  | zero => rfl
  | succ fuel => rw [readValue?, readValue?, skipGap_append h]

/-- Items are read behind blanks as they are without them. -/
theorem readItems?_gap {gap : Text} (h : IsGap gap) (fuel nesting : Nat) (t : Text) :
    readItems? fuel nesting (gap ++ t) = readItems? fuel nesting t := by
  cases fuel with
  | zero => rfl
  | succ fuel => rw [readItems?, readItems?, readValue?_gap h]

/-- Members are read behind blanks as they are without them. -/
theorem readMembers?_gap {gap : Text} (h : IsGap gap) (fuel nesting : Nat) (t : Text) :
    readMembers? fuel nesting (gap ++ t) = readMembers? fuel nesting t := by
  cases fuel with
  | zero => rfl
  | succ fuel => rw [readMembers?, readMembers?, skipGap_append h]

/-! ## Strings -/

/-- A code point is read off however it is written. -/
theorem readString_append {c : Char} {piece : Text} (h : SpellsChar c piece) (rest : Text) :
    readString (piece ++ rest) = (readString rest).map fun read => (c :: read.1, read.2) := by
  cases h with
  | plain hvisible hquote hbackslash =>
      show readString (c :: rest) = _
      -- the last case of the reader: its equation asks that none of the cases above applies
      rw [readString]
      · rw [if_neg (Nat.not_lt.mpr hvisible)]
      · exact hquote
      · intro _ _ _ _ _ hc
        exact absurd hc hbackslash
      · intro _ _ hc
        exact absurd hc hbackslash
  | @letter _ e hescape =>
      show readString ('\\' :: e :: rest) = _
      rw [readString]
      · rw [hescape]
      · -- `u` is the letter of no escape, so four digits are not looked for
        rintro _ _ _ _ _ rfl
        cases hescape
  | @unit a b c d n hdigits hhigh hlow =>
      show readString ('\\' :: 'u' :: a :: b :: c :: d :: rest) = _
      rw [readString, hdigits]
      simp only [hhigh, hlow, Bool.false_eq_true, if_false]
  | @pair a b c d a' b' c' d' n m hfirst hsecond hhigh hlow =>
      show readString ('\\' :: 'u' :: a :: b :: c :: d :: '\\' :: 'u' :: a' :: b' :: c' :: d' ::
        rest) = _
      rw [readString, hfirst]
      simp only [hhigh, hsecond, hlow, if_true]

/-- A string is read up to its closing quote. -/
theorem readString_of_spells {t s : Text} (h : SpellsString t s) (rest : Text) :
    readString (s ++ '"' :: rest) = some (t, rest) := by
  induction h with
  | nil => rfl
  | cons hfirst _ ih =>
      rw [List.append_assoc, readString_append hfirst, ih]
      rfl

/-! ## Numbers

Digits are read as far as they go, so a number is read exactly only where it does not go on: no digit
follows it, no point and no exponent.  That holds of everything that may follow a value. -/

/-- What may follow a value: nothing, a blank, a comma or a closing bracket. -/
def Ends (rest : Text) : Prop :=
  ∀ c ∈ rest.head?, isGap c = true ∨ c = ',' ∨ c = ']' ∨ c = '}'

/-- A value may stand at the end of a text. -/
theorem ends_nil : Ends [] := by
  intro c hc
  cases hc

/-- Blanks may stand between a value and what may follow it. -/
theorem ends_append {after rest : Text} (h : IsGap after) (hrest : Ends rest) :
    Ends (after ++ rest) := by
  cases after with
  | nil => exact hrest
  | cons c after =>
      intro c' hc'
      obtain rfl : c = c' := Option.some.inj hc'
      exact Or.inl (h c List.mem_cons_self)

/-- What goes on with the container around a value may follow it. -/
theorem ends_cons {c : Char} (h : c = ',' ∨ c = ']' ∨ c = '}') (rest : Text) :
    Ends (c :: rest) := by
  intro c' hc'
  obtain rfl : c = c' := Option.some.inj hc'
  exact Or.inr h

/-- Behind a value no digit, no point and no exponent follows. -/
theorem not_number_of_ends {c : Char} {rest : Text} (h : Ends (c :: rest)) :
    c.isDigit = false ∧ c ≠ '.' ∧ c ≠ 'e' ∧ c ≠ 'E' := by
  rcases h c rfl with hgap | rfl | rfl | rfl
  · rw [isGap] at hgap
    simp only [Bool.or_eq_true, beq_iff_eq] at hgap
    rcases hgap with ((rfl | rfl) | rfl) | rfl
    all_goals decide
  all_goals decide

/-- A run of digits is cut off just where the rest begins. -/
theorem isDigit_run_append {digits rest : Text} (h : ∀ c ∈ digits, c.isDigit = true)
    (hrest : Ends rest) :
    (digits ++ rest).takeWhile Char.isDigit = digits ∧
      (digits ++ rest).dropWhile Char.isDigit = rest := by
  rw [List.takeWhile_append_of_pos h, List.dropWhile_append_of_pos h]
  cases rest with
  | nil => simp
  | cons c rest =>
      obtain ⟨hdigit, -⟩ := not_number_of_ends hrest
      simp [hdigit]

/-- No fraction is read where none follows. -/
theorem readFraction?_of_ends {rest : Text} (h : Ends rest) :
    readFraction? rest = some (none, rest) := by
  cases rest with
  | nil => rfl
  | cons c rest =>
      obtain ⟨-, hpoint, -⟩ := not_number_of_ends h
      rw [readFraction?]
      intro _ hc
      exact hpoint (List.cons.inj hc).1

/-- No exponent is read where none follows. -/
theorem readExponent?_of_ends {rest : Text} (h : Ends rest) :
    readExponent? rest = some (none, rest) := by
  cases rest with
  | nil => rfl
  | cons c rest =>
      obtain ⟨-, -, hsmall, hcapital⟩ := not_number_of_ends h
      rw [readExponent?, if_neg]
      simp [hsmall, hcapital]

/-- The only numeral that starts with the digit zero is that of zero. -/
theorem eq_zero_of_head?_ofNat {n : Nat} (h : (Numeral.ofNat n).head? = some '0') : n = 0 := by
  -- a longer numeral has the first digit of the numeral without its last digit
  induction n using Nat.strongRecOn with
  | ind n ih =>
      by_cases hlarge : 10 ≤ n
      · obtain ⟨c, digits, hdigits⟩ := List.exists_cons_of_ne_nil (Numeral.ofNat_ne_nil (n / 10))
        have hsplit : Numeral.ofNat n = (c :: digits) ++ [(n % 10).digitChar] := by
          rw [← hdigits]
          exact Nat.toDigits_of_base_le (by decide) hlarge
        rw [hsplit] at h
        have hhead : (Numeral.ofNat (n / 10)).head? = some '0' := by
          rw [hdigits]
          exact h
        have hdiv := ih (n / 10) (by omega) hhead
        omega
      · rw [Numeral.ofNat, Nat.toDigits_of_lt_base (by omega)] at h
        have hdigit : (Nat.digitChar n).toNat = ('0' : Char).toNat :=
          congrArg Char.toNat (Option.some.inj h)
        rw [Nat.toNat_digitChar_of_lt_ten (by omega)] at hdigit
        have hcode : ('0' : Char).toNat = 48 := rfl
        omega

/-- An integer with a finite number has fewer digits than one may have: 309 at most. -/
theorem writable_of_finite {n : Int} (h : n.natAbs < Binary64.overflowBound) : Numeral.Writable n :=
  Numeral.writable_iff.mpr (Nat.lt_of_lt_of_le h (by decide +kernel))

/-- The digits of a number are read up to what follows them. -/
theorem readUnsigned?_ofNat {n : Nat} (h : n < Binary64.overflowBound) (negative : Bool)
    {rest : Text} (hrest : Ends rest) :
    readUnsigned? negative (Numeral.ofNat n ++ rest) =
      some (.int (if negative then -(n : Int) else n), rest) := by
  obtain ⟨htake, hdrop⟩ := isDigit_run_append (fun _ => Numeral.isDigit_of_mem_ofNat) hrest
  have hread : readDigits? (Numeral.ofNat n ++ rest) = some (Numeral.ofNat n, rest) := by
    rw [readDigits?, htake, hdrop, if_neg (Numeral.ofNat_ne_nil n)]
  have hzero : ¬ ((Numeral.ofNat n).head? = some '0' ∧ Numeral.ofNat n ≠ ['0']) := by
    rintro ⟨hhead, hne⟩
    rw [eq_zero_of_head?_ofNat hhead] at hne
    exact hne (by decide)
  have hlength : ¬ Numeral.maxDigits < (Numeral.ofNat n).length :=
    Nat.not_lt.mpr (writable_of_finite (n := n) h)
  rw [readUnsigned?, hread]
  show (if _ then _ else _) = _
  rw [if_neg hzero, if_neg hlength, readFraction?_of_ends hrest]
  show (readExponent? rest).bind _ = _
  rw [readExponent?_of_ends hrest]
  show some (Value.int (if negative then -((Numeral.value (Numeral.ofNat n) : Nat) : Int)
    else (Numeral.value (Numeral.ofNat n) : Nat)), rest) = _
  rw [Numeral.value_ofNat]

/-- An integer is read up to what follows it. -/
theorem readNumber?_ofInt {k : Int} (h : k.natAbs < Binary64.overflowBound) {rest : Text}
    (hrest : Ends rest) : readNumber? (Numeral.ofInt k ++ rest) = some (.int k, rest) := by
  have hdigit : ∀ {d x : Char} {digits more : Text}, d.isDigit = true → x.isDigit = false →
      d :: digits ≠ x :: more := by
    rintro d x digits more hd hx hc
    obtain rfl := (List.cons.inj hc).1
    rw [hd] at hx
    cases hx
  cases k with
  | ofNat n =>
      obtain ⟨d, digits, hdigits, hd⟩ := exists_digit_ofNat n
      have hread : readUnsigned? false (Numeral.ofNat n ++ rest) = some (.int n, rest) :=
        readUnsigned?_ofNat h false hrest
      show readNumber? (Numeral.ofNat n ++ rest) = some (.int n, rest)
      rw [← hread, hdigits, List.cons_append, readNumber?]
      -- a digit is neither a sign nor the first letter of a name
      all_goals
        intro _ hc
        exact hdigit hd rfl hc
  | negSucc n =>
      obtain ⟨d, digits, hdigits, hd⟩ := exists_digit_ofNat (n + 1)
      have hread : readUnsigned? true (Numeral.ofNat (n + 1) ++ rest) =
          some (.int (.negSucc n), rest) :=
        readUnsigned?_ofNat h true hrest
      show readNumber? ('-' :: (Numeral.ofNat (n + 1) ++ rest)) = _
      rw [← hread, hdigits, List.cons_append, readNumber?]
      intro _ hc
      exact hdigit hd rfl hc

/-! ## Values

The reader chooses its way by the code point that a value opens with; there is one lemma for each.  A
container with something in it is told from an empty one by what stands behind its bracket (`Opens`). -/

/-- A value that opens with a digit or a sign is a number. -/
theorem readValue?_number {c : Char} (h : c.isDigit = true ∨ c = '-') (fuel nesting : Nat)
    (t : Text) : readValue? (fuel + 1) nesting (c :: t) = readNumber? (c :: t) := by
  have hgap : isGap c = false := by
    simp [isGap, ne_of_opens_number h]
  rw [readValue?, skipGap_cons hgap]
  -- the last case is that of numbers; every case above expects another code point
  split
  case h_1 hc => cases hc
  case h_8 => rfl
  all_goals
    next hc =>
      exact absurd (List.cons.inj hc).1 (ne_of_opens_number h (by decide))

/-- A bracket opens a list where items follow. -/
theorem readValue?_list {t : Text} (h : Opens t) (fuel nesting : Nat) :
    readValue? (fuel + 1) (nesting + 1) ('[' :: t) =
      (readItems? fuel nesting t).map fun read => (.list read.1, read.2) := by
  obtain ⟨gap, c, more, hgap, hc, hbracket, -, rfl⟩ := h
  rw [readItems?_gap hgap, readValue?, skipGap_cons (by decide)]
  simp only [skipGap_append hgap, skipGap_cons hc]
  split
  case h_1 hclose => exact absurd (List.cons.inj hclose).1 hbracket
  case h_2 hnone _ => cases hnone
  case h_3 hnesting _ =>
    cases hnesting
    rfl

/-- A brace opens a mapping where members follow. -/
theorem readValue?_mapping {t : Text} (h : Opens t) (fuel nesting : Nat) :
    readValue? (fuel + 1) (nesting + 1) ('{' :: t) =
      (readMembers? fuel nesting t).map fun read => (Value.ofPairs read.1, read.2) := by
  obtain ⟨gap, c, more, hgap, hc, -, hbrace, rfl⟩ := h
  rw [readMembers?_gap hgap, readValue?, skipGap_cons (by decide)]
  simp only [skipGap_append hgap, skipGap_cons hc]
  split
  case h_1 hclose => exact absurd (List.cons.inj hclose).1 hbrace
  case h_2 hnone _ => cases hnone
  case h_3 hnesting _ =>
    cases hnesting
    rfl

/-- A quote opens a string. -/
theorem readValue?_text {t s : Text} (h : SpellsString t s) (fuel nesting : Nat) (rest : Text) :
    readValue? (fuel + 1) nesting ('"' :: (s ++ '"' :: rest)) = some (.text t, rest) := by
  rw [readValue?, skipGap_cons (by decide)]
  simp only [readString_of_spells h, Option.map_some]

/-- An empty list takes no nesting. -/
theorem readValue?_emptyList {gap : Text} (h : IsGap gap) (fuel nesting : Nat) (rest : Text) :
    readValue? (fuel + 1) nesting ('[' :: (gap ++ ']' :: rest)) = some (.list [], rest) := by
  rw [readValue?, skipGap_cons (by decide)]
  simp only [skipGap_append h, skipGap_cons (by decide : isGap ']' = false)]

/-- An empty mapping takes no nesting either. -/
theorem readValue?_emptyMapping {gap : Text} (h : IsGap gap) (fuel nesting : Nat) (rest : Text) :
    readValue? (fuel + 1) nesting ('{' :: (gap ++ '}' :: rest)) = some (.mapping [], rest) := by
  rw [readValue?, skipGap_cons (by decide)]
  simp only [skipGap_append h, skipGap_cons (by decide : isGap '}' = false)]

/-! ## Items and members

Behind an item or a member the reader skips blanks and finds a comma or the end of the container.  What
is known of the rest is therefore stated of `skipGap left`, not of `left`. -/

section Items

variable {fuel nesting : Nat} {t left : Text} {v : Value}
  (hvalue : readValue? fuel nesting t = some (v, left))
include hvalue

/-- The closing bracket behind an item ends the items. -/
theorem readItems?_last {rest : Text} (h : skipGap left = ']' :: rest) :
    readItems? (fuel + 1) nesting t = some ([v], rest) := by
  rw [readItems?]
  simp only [hvalue, h]

/-- A comma behind an item asks for more of them. -/
theorem readItems?_more {more : Text} (h : skipGap left = ',' :: more) :
    readItems? (fuel + 1) nesting t =
      (readItems? fuel nesting more).map fun read => (v :: read.1, read.2) := by
  rw [readItems?]
  simp only [hvalue, h]

end Items

section Members

variable {fuel nesting : Nat} {name s before after t left : Text} {v : Value}
  (hbefore : IsGap before) (hname : SpellsString name s) (hafter : IsGap after)
  (hvalue : readValue? fuel nesting t = some (v, left))
include hbefore hname hafter hvalue

/-- The closing brace behind a member ends the members. -/
theorem readMembers?_last {rest : Text} (h : skipGap left = '}' :: rest) :
    readMembers? (fuel + 1) nesting (before ++ '"' :: (s ++ '"' :: (after ++ ':' :: t))) =
      some ([(.text name, v)], rest) := by
  rw [readMembers?, skipGap_append hbefore, skipGap_cons (by decide)]
  simp only [readString_of_spells hname, skipGap_append hafter,
    skipGap_cons (by decide : isGap ':' = false), hvalue, h]

/-- A comma behind a member asks for more of them. -/
theorem readMembers?_more {more : Text} (h : skipGap left = ',' :: more) :
    readMembers? (fuel + 1) nesting (before ++ '"' :: (s ++ '"' :: (after ++ ':' :: t))) =
      (readMembers? fuel nesting more).map fun read => ((.text name, v) :: read.1, read.2) := by
  rw [readMembers?, skipGap_append hbefore, skipGap_cons (by decide)]
  simp only [readString_of_spells hname, skipGap_append hafter,
    skipGap_cons (by decide : isGap ':' = false), hvalue, h]

end Members

/-! ## Every text is read

The fuel is not the reader's own measure: each step takes one, and the length of what is still to be
read bounds the steps, as every part holds a code point of its own. -/

/-- What reading a part gives, with the rest that is left; the blanks behind an element are left with
the rest. -/
def Reads (fuel nesting : Nat) (t rest : Text) : Part → Prop
  | .value v => readValue? fuel nesting t = some (v, rest)
  | .element v => ∃ left, readValue? fuel nesting t = some (v, left) ∧ skipGap left = skipGap rest
  | .items items => readItems? fuel nesting t = some (items, rest)
  | .members members => readMembers? fuel nesting t = some (members, rest)

/-- A step of the reader takes one from the fuel, and a code point is behind it at least. -/
theorem exists_fuel {fuel : Nat} {c : Char} (before : Text) {after : Text}
    (h : (before ++ c :: after).length ≤ fuel) :
    ∃ left, fuel = left + 1 ∧ before.length ≤ left ∧ after.length ≤ left := by
  rw [List.length_append, List.length_cons] at h
  exact ⟨fuel - 1, by omega, by omega, by omega⟩

/-- **Each part is read off its texts**, with as much fuel as the text is long. -/
theorem reads_of_spells {nesting : Nat} {part : Part} {t : Text} (h : Spells nesting part t) :
    ∀ {fuel : Nat} {rest : Text}, t.length ≤ fuel → Ends rest →
      Reads fuel nesting (t ++ rest) rest part := by
  induction h with
  | null =>
      intro fuel rest hfuel _
      obtain ⟨fuel, rfl, -⟩ := exists_fuel [] hfuel
      rfl
  | @bool _ b =>
      intro fuel rest hfuel _
      cases b with
      | true =>
          obtain ⟨fuel, rfl, -⟩ := exists_fuel [] hfuel
          rfl
      | false =>
          obtain ⟨fuel, rfl, -⟩ := exists_fuel [] hfuel
          rfl
  | @int _ k hfinite =>
      intro fuel rest hfuel hrest
      obtain ⟨c, more, htext, hc⟩ := exists_opening_ofInt k
      rw [htext] at hfuel
      obtain ⟨fuel, rfl, -⟩ := exists_fuel [] hfuel
      rw [Reads, ← readNumber?_ofInt hfinite hrest, htext]
      exact readValue?_number hc fuel _ _
  | text hstring =>
      intro fuel rest hfuel _
      obtain ⟨fuel, rfl, -⟩ := exists_fuel [] hfuel
      rw [Reads, List.append_assoc]
      exact readValue?_text hstring fuel _ rest
  | emptyList hgap =>
      intro fuel rest hfuel _
      obtain ⟨fuel, rfl, -⟩ := exists_fuel [] hfuel
      rw [Reads, List.append_assoc]
      exact readValue?_emptyList hgap fuel _ rest
  | list hcontent ih =>
      intro fuel rest hfuel hrest
      obtain ⟨fuel, rfl, -, hlength⟩ := exists_fuel [] hfuel
      have hread := ih hlength hrest
      rw [Reads, List.cons_append, readValue?_list ((opens_of_spells hcontent).append rest), hread]
      rfl
  | emptyMapping hgap =>
      intro fuel rest hfuel _
      obtain ⟨fuel, rfl, -⟩ := exists_fuel [] hfuel
      rw [Reads, List.append_assoc]
      exact readValue?_emptyMapping hgap fuel _ rest
  | mapping hdistinct hcontent ih =>
      intro fuel rest hfuel hrest
      obtain ⟨fuel, rfl, -, hlength⟩ := exists_fuel [] hfuel
      have hread := ih hlength hrest
      rw [Reads, List.cons_append, readValue?_mapping ((opens_of_spells hcontent).append rest),
        hread]
      show some (Value.ofPairs _, rest) = _
      rw [Value.ofPairs, Entries.ofPairs_of_pairwise hdistinct]
  | element hbefore _ hafter ih =>
      intro fuel rest hfuel hrest
      simp only [List.length_append] at hfuel
      refine ⟨_, ?_, skipGap_append hafter rest⟩
      rw [List.append_assoc, List.append_assoc, readValue?_gap hbefore]
      exact ih (by omega) (ends_append hafter hrest)
  | @lastItem _ _ t _ ih =>
      -- the item may leave blanks in front of the bracket, which the next step skips
      intro fuel rest hfuel _
      obtain ⟨fuel, rfl, hlength, -⟩ := exists_fuel t hfuel
      have hends : Ends (']' :: rest) := ends_cons (by decide) rest
      obtain ⟨left, hread, hleft⟩ := ih hlength hends
      rw [Reads, List.append_assoc]
      exact readItems?_last hread (hleft.trans (skipGap_cons (by decide) rest))
  | @item _ _ _ t t' _ _ ih ihmore =>
      intro fuel rest hfuel hrest
      obtain ⟨fuel, rfl, hlength, hlater⟩ := exists_fuel t hfuel
      have hends : Ends (',' :: (t' ++ rest)) := ends_cons (by decide) _
      obtain ⟨left, hread, hleft⟩ := ih hlength hends
      have hmore : readItems? fuel _ (t' ++ rest) = some (_, rest) := ihmore hlater hrest
      rw [Reads, List.append_assoc, List.cons_append,
        readItems?_more hread (hleft.trans (skipGap_cons (by decide) _)), hmore]
      rfl
  | @lastMember _ _ _ before _ t _ hbefore hname hafter _ ih =>
      intro fuel rest hfuel _
      simp only [List.append_assoc, List.cons_append, List.nil_append] at hfuel ⊢
      -- the quote of the name pays for this step; name and colon stand behind it
      obtain ⟨fuel, rfl, -, hlater⟩ := exists_fuel before hfuel
      simp only [List.length_append, List.length_cons] at hlater
      have hends : Ends ('}' :: rest) := ends_cons (by decide) rest
      obtain ⟨left, hread, hleft⟩ := ih (by omega : t.length ≤ fuel) hends
      exact readMembers?_last hbefore hname hafter hread
        (hleft.trans (skipGap_cons (by decide) rest))
  | @member _ _ _ before _ t t' _ _ hbefore hname hafter _ _ ih ihmore =>
      intro fuel rest hfuel hrest
      simp only [List.append_assoc, List.cons_append] at hfuel ⊢
      obtain ⟨fuel, rfl, -, hlater⟩ := exists_fuel before hfuel
      simp only [List.length_append, List.length_cons] at hlater
      have hends : Ends (',' :: (t' ++ rest)) := ends_cons (by decide) _
      obtain ⟨left, hread, hleft⟩ := ih (by omega : t.length ≤ fuel) hends
      have hmore : readMembers? fuel _ (t' ++ rest) = some (_, rest) := ihmore (by omega) hrest
      rw [Reads, readMembers?_more hbefore hname hafter hread
        (hleft.trans (skipGap_cons (by decide) _)), hmore]
      rfl

/-- **Whichever text of a value is read, the value comes back**, as long as its containers are nested
no deeper than the reader follows. -/
theorem read?_of_isTextOf {v : Value} {t : Text} (h : IsTextOf maxNesting v t) :
    read? t = some v := by
  obtain ⟨left, hread, hleft⟩ := reads_of_spells h (by omega : t.length ≤ 2 * t.length + 2) ends_nil
  rw [List.append_nil] at hread
  rw [read?, hread]
  exact if_pos hleft

end FullTextSearch.Json
