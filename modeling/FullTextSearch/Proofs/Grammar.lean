/-
# `FullTextSearch.Proofs.Grammar` — the lexical grammar of search strings.

The grammar is stated without the scanner.  `Lexeme` lists the spellings of one token, and `Spells`
puts lexemes in a row: blanks may stand anywhere between them, and have to stand only where two
lexemes would otherwise run together.  The one lenient rule is that the last phrase may lack its
closing quote.

The small statements here tie keywords to bare words: a word that reads `AND`, `OR` or `AROUND` in
capitals consists of word code points, so the grammar need not say so.
-/
import FullTextSearch.Proofs.Words
import FullTextSearch.Token
import FullTextSearch.Text.Case

namespace FullTextSearch.Grammar

/-! ## Code points -/

/-- The code points that are operators or brackets, or open a quote. -/
def isSpecial (c : Char) : Bool :=
  c == '|' || c == '&' || c == '-' || c == '!' || c == '(' || c == ')' || c == '<' || c == '>' ||
    c == '"'

/-- The code points that words are made of. -/
def isWordChar (c : Char) : Bool := !isSpecial c && !isBlank c

theorem not_isWordChar_of_blank {c : Char} (h : isBlank c = true) : isWordChar c = false := by
  simp [isWordChar, h]

/-- Raising a letter changes nothing about whether words are made of it. -/
theorem isWordChar_toUpper (c : Char) : isWordChar c.toUpper = isWordChar c := by
  by_cases h : 'a'.val ≤ c.val ∧ c.val ≤ 'z'.val
  · -- the letters are finitely many, counted from the first
    have hletters : ∀ k < 26,
        isWordChar (Char.ofNat (97 + k)).toUpper = isWordChar (Char.ofNat (97 + k)) := by decide
    have hlow : 97 ≤ c.toNat := h.1
    have hhigh : c.toNat ≤ 122 := h.2
    have hc : Char.ofNat (97 + (c.toNat - 97)) = c := by
      rw [show 97 + (c.toNat - 97) = c.toNat by omega, Char.ofNat_toNat]
    have hk := hletters (c.toNat - 97) (by omega)
    rwa [hc] at hk
  · have hsame : c.toUpper = c := dif_neg h
    rw [hsame]

/-! ## Bare words -/

/-- A text that is not empty and holds word code points only. -/
def IsBareword (w : Text) : Prop := w ≠ [] ∧ ∀ c ∈ w, isWordChar c = true

theorem isBareword_iff (w : Text) :
    (!w.isEmpty && w.all isWordChar) = true ↔ IsBareword w := by
  simp [IsBareword]

instance (w : Text) : Decidable (IsBareword w) :=
  decidable_of_decidable_of_iff (isBareword_iff w)

theorem not_isBareword_of_mem {w : Text} {c : Char} (hc : c ∈ w) (h : isWordChar c = false) :
    ¬ IsBareword w :=
  fun hbare => Bool.false_ne_true (h.symm.trans (hbare.2 c hc))

/-- A text that is a bare word in capitals is one. -/
theorem isBareword_of_capitals {w : Text} (h : IsBareword w.capitals) : IsBareword w := by
  refine ⟨fun hw => h.1 (by rw [hw]; rfl), fun c hc => ?_⟩
  rw [← isWordChar_toUpper]
  exact h.2 c.toUpper (List.mem_map_of_mem hc)

/-- Bare words are solid. -/
theorem IsBareword.solid {w : Text} (h : IsBareword w) : w.Solid := by
  refine ⟨h.1, fun c hc => ?_⟩
  have hword := h.2 c hc
  simp only [isWordChar, Bool.and_eq_true, Bool.not_eq_true'] at hword
  exact hword.2

/-! ## Lexemes -/

/-- A run of digits `0` to `9` that is short enough to be read, and the distance that it spells. -/
def IsDistance (digits : Text) (n : Nat) : Prop :=
  digits ≠ [] ∧ digits.length ≤ Numeral.maxDigits ∧ digits.all Char.isDigit = true ∧
    Numeral.value digits = n

/-- A run of digits is valued below the power of ten of its length. -/
theorem value_lt {digits : Text} (h : digits.all Char.isDigit = true) :
    Numeral.value digits < Nat.pow 10 digits.length := by
  induction digits with
  | nil => decide
  | cons c digits ih =>
      simp only [List.all_cons, Bool.and_eq_true] at h
      have htail := ih h.2
      have hdigit : c.toNat - '0'.toNat ≤ 9 := by
        have hc := h.1
        simp only [Char.isDigit, Bool.and_eq_true, decide_eq_true_eq] at hc
        have hhigh : c.toNat ≤ 57 := hc.2
        have hzero : '0'.toNat = 48 := rfl
        omega
      have hhead := Nat.mul_le_mul_left (Nat.pow 10 digits.length) hdigit
      have hvalue : Numeral.value (c :: digits) =
          Nat.pow 10 digits.length * (c.toNat - '0'.toNat) + Numeral.value digits := by
        rw [Numeral.value, Nat.ofDigitChars_cons, Nat.ofDigitChars_eq_ofDigitChars_zero,
          Nat.mul_zero, Nat.zero_add]
        rfl
      have hpow : Nat.pow 10 (c :: digits).length = Nat.pow 10 digits.length * 10 := rfl
      rw [hvalue, hpow]
      omega

/-- Written without leading zeros, a distance is no longer than it was read. -/
theorem IsDistance.length_ofNat {digits : Text} {n : Nat} (h : IsDistance digits n) :
    (Numeral.ofNat n).length ≤ Numeral.maxDigits := by
  obtain ⟨hne, hlength, hdigits, rfl⟩ := h
  have hpos : 0 < digits.length := List.length_pos_iff.mpr hne
  have hshort := (Nat.length_toDigits_le_iff (by decide) hpos).mpr (value_lt hdigits)
  exact Nat.le_trans hshort hlength

/-- A number that is written with few enough digits is spelled by them. -/
theorem isDistance_ofNat {n : Nat} (h : (Numeral.ofNat n).length ≤ Numeral.maxDigits) :
    IsDistance (Numeral.ofNat n) n :=
  ⟨Numeral.ofNat_ne_nil n, h,
    List.all_eq_true.mpr fun _ hc => Numeral.isDigit_of_mem_ofNat hc, Numeral.value_ofNat n⟩

/-- The spellings of one token. -/
inductive Lexeme : Token → Text → Prop
  /-- A bare word spells itself, unless it is a keyword. -/
  | word {w : Text} (bare : IsBareword w) (notAnd : w.capitals ≠ "AND".toList)
      (notOr : w.capitals ≠ "OR".toList) : Lexeme (.word w) w
  /-- A quote spells the phrase of its words. -/
  | phrase {s : Text} (closed : '"' ∉ s) : Lexeme (.phrase s.collapse) (['"'] ++ s ++ ['"'])
  | andWord {w : Text} (keyword : w.capitals = "AND".toList) : Lexeme .and w
  | andSign : Lexeme .and ['&']
  | orWord {w : Text} (keyword : w.capitals = "OR".toList) : Lexeme .or w
  | orSign : Lexeme .or ['|']
  | dash : Lexeme .minus ['-']
  | bang : Lexeme .minus ['!']
  | openParen : Lexeme .openParen ['(']
  | closeParen : Lexeme .closeParen [')']
  /-- A distance in angle brackets. -/
  | angle {d : Text} {n : Nat} (distance : IsDistance d n) :
      Lexeme (.around n) (['<'] ++ d ++ ['>'])
  /-- The short form of the distance one. -/
  | arrow : Lexeme (.around 1) ['<', '-', '>']
  /-- A distance after the keyword, with nothing between the keyword and the parenthesis. -/
  | around {w d : Text} {n : Nat} (keyword : w.capitals = "AROUND".toList)
      (distance : IsDistance d n) : Lexeme (.around n) (w ++ ['('] ++ d ++ [')'])

/-- Whether a text may follow a lexeme directly.  A bare word would run together with a word code
point, and the keyword `AROUND` with a parenthesis; since neither is a blank, this asks for a blank
exactly where two lexemes would be read as one. -/
def Parted (lexeme rest : Text) : Prop :=
  IsBareword lexeme → ∀ c ∈ rest.head?,
    isWordChar c = false ∧ (c = '(' → lexeme.capitals ≠ "AROUND".toList)

/-- **The lexical grammar.**  `Spells tokens text`: the text is the lexemes of the tokens in order,
with blanks before, between and after them. -/
inductive Spells : List Token → Text → Prop
  /-- No token is spelled by blanks. -/
  | blank {gap : Text} (blank : gap.isAllBlank = true) : Spells [] gap
  /-- A token in front of others. -/
  | token {gap lexeme rest : Text} {t : Token} {ts : List Token} (blank : gap.isAllBlank = true)
      (spelling : Lexeme t lexeme) (parted : Parted lexeme rest) (more : Spells ts rest) :
      Spells (t :: ts) (gap ++ lexeme ++ rest)
  /-- A phrase whose quote is closed by the end of the text. -/
  | unclosed {gap s : Text} (blank : gap.isAllBlank = true) (quote : '"' ∉ s) :
      Spells [.phrase s.collapse] (gap ++ ['"'] ++ s)

/-! ## Tokens that have a spelling -/

/-- A token that some lexeme spells, up to the blanks between the words of a phrase. -/
def Readable : Token → Prop
  | .word w => IsBareword w ∧ w.capitals ≠ "AND".toList ∧ w.capitals ≠ "OR".toList
  | .phrase t => '"' ∉ t
  | .around n => ∃ k : Nat, n = k ∧ (Numeral.ofNat k).length ≤ Numeral.maxDigits
  | .and | .or | .minus | .openParen | .closeParen => True

theorem readable_collapse {s : Text} (h : '"' ∉ s) : Readable (.phrase s.collapse) := by
  intro hmem
  rcases Text.mem_or_eq_space_of_mem_collapse hmem with hs | hspace
  · exact h hs
  · exact absurd hspace (by decide)

/-- No token is spelled by nothing. -/
theorem Lexeme.ne_nil {t : Token} {l : Text} (h : Lexeme t l) : l ≠ [] := by
  intro hl
  cases h with
  | word bare => exact bare.1 hl
  | andWord keyword | orWord keyword =>
      rw [hl] at keyword
      exact absurd keyword (by decide)
  | phrase | andSign | orSign | dash | bang | openParen | closeParen | angle | arrow | around =>
      simp at hl

theorem Lexeme.readable {t : Token} {l : Text} (h : Lexeme t l) : Readable t := by
  cases h with
  | word bare notAnd notOr => exact ⟨bare, notAnd, notOr⟩
  | phrase closed => exact readable_collapse closed
  | angle distance | around _ distance => exact ⟨_, rfl, distance.length_ofNat⟩
  | arrow => exact ⟨1, rfl, by decide⟩
  | andWord | andSign | orWord | orSign | dash | bang | openParen | closeParen => trivial

/-- Spelled tokens are readable. -/
theorem Spells.readable {ts : List Token} {x : Text} (h : Spells ts x) :
    ∀ t ∈ ts, Readable t := by
  induction h with
  | blank => simp
  | token _ spelling _ _ ih => exact List.forall_mem_cons.mpr ⟨spelling.readable, ih⟩
  | unclosed _ quote => exact List.forall_mem_cons.mpr ⟨readable_collapse quote, by simp⟩

/-! ## Building spellings -/

/-- A blank in front of a spelling is part of its first gap. -/
theorem Spells.cons_blank {ts : List Token} {x : Text} {c : Char} (hc : isBlank c = true)
    (h : Spells ts x) : Spells ts (c :: x) := by
  have hgap : ∀ {gap : Text}, gap.isAllBlank = true → Text.isAllBlank (c :: gap) = true := by
    intro gap hgap
    simp only [Text.isAllBlank, List.all_cons, Bool.and_eq_true]
    exact ⟨hc, hgap⟩
  cases h with
  | blank blank => exact .blank (hgap blank)
  | token blank spelling parted more => exact .token (hgap blank) spelling parted more
  | unclosed blank quote => exact .unclosed (hgap blank) quote

/-- A lexeme in front of a spelling that it is parted from. -/
theorem Spells.cons_parted {t : Token} {ts : List Token} {l x : Text} (spelling : Lexeme t l)
    (parted : Parted l x) (h : Spells ts x) : Spells (t :: ts) (l ++ x) := by
  have hnone : Text.isAllBlank [] = true := rfl
  exact .token hnone spelling parted h

/-- A lexeme that is no bare word may stand in front of anything. -/
theorem Spells.cons_lexeme {t : Token} {ts : List Token} {l x : Text} (spelling : Lexeme t l)
    (hl : ¬ IsBareword l) (h : Spells ts x) : Spells (t :: ts) (l ++ x) :=
  .cons_parted spelling (fun hbare => absurd hbare hl) h

end FullTextSearch.Grammar
