/-
# `FullTextSearch.Proofs.Description` — descriptions that can be read back.

A token list is described on one line with spaces between its tokens, and a phrase may hold spaces of
its own, parentheses and everything else that looks like a description.  What keeps descriptions apart
is the double quote: no word or phrase of a search string holds one, so the first quote behind the
opening of a word or phrase is the one that ends it.

Each token is read back first: whatever follows the two descriptions, tokens that are described alike
are equal and are followed by the same text (`describe_append_inj`).  A list goes by induction along
its tokens.  The main statement is `describeAll_unambiguous`.
-/
import FullTextSearch.Proofs.DesugaredForm

namespace FullTextSearch

/-! ## Enclosed texts -/

namespace Text

/-- A text is told apart from what follows it by the first code point that is not in it. -/
theorem append_cons_inj {x y r s : Text} {c : Char} (hx : c ∉ x) (hy : c ∉ y)
    (h : x ++ c :: r = y ++ c :: s) : x = y ∧ r = s := by
  have hfirst : ∀ {z tail : Text}, c ∉ z → (z ++ c :: tail).idxOf c = z.length := by
    intro z tail hz
    rw [List.idxOf_append_of_notMem hz, List.idxOf_cons_self, Nat.add_zero]
  have hlength : x.length = y.length := by
    rw [← hfirst hx, h, hfirst hy]
  obtain ⟨hxy, hrest⟩ := List.append_inj h hlength
  exact ⟨hxy, (List.cons.inj hrest).2⟩

/-- Two texts between the same delimiters are told apart from what follows, if neither holds the
code point that the closing delimiter starts with. -/
theorem enclosed_inj {opening closing x y r s : Text} {c : Char} (hx : c ∉ x) (hy : c ∉ y)
    (h : opening ++ x ++ c :: closing ++ r = opening ++ y ++ c :: closing ++ s) :
    x = y ∧ r = s := by
  simp only [List.append_assoc, List.cons_append] at h
  obtain ⟨hxy, hclosing⟩ := append_cons_inj hx hy (List.append_cancel_left h)
  exact ⟨hxy, List.append_cancel_left hclosing⟩

end Text

namespace Token

/-! ## One token -/

/-- A token whose text, if it is a word or a phrase, holds no double quote. -/
def QuoteFree : Token → Prop
  | .word t | .phrase t => '"' ∉ t
  | .and | .or | .minus | .around _ | .openParen | .closeParen => True

/-- The first two letters of a description, which settle the kind of the token. -/
def initials : Token → Char × Char
  | .word _ => ('W', 'O')
  | .phrase _ => ('Q', 'U')
  | .and => ('A', 'N')
  | .or => ('O', 'R')
  | .minus => ('M', 'I')
  | .around _ => ('A', 'R')
  | .openParen => ('O', 'P')
  | .closeParen => ('C', 'L')

theorem exists_describe_eq_cons (t : Token) :
    ∃ rest, describe t = t.initials.1 :: t.initials.2 :: rest := by
  cases t <;> exact ⟨_, rfl⟩

/-- Tokens that are described alike have the same initials. -/
theorem initials_eq_of_describe_append {t u : Token} {r s : Text}
    (h : describe t ++ r = describe u ++ s) : t.initials = u.initials := by
  obtain ⟨v, hv⟩ := exists_describe_eq_cons t
  obtain ⟨w, hw⟩ := exists_describe_eq_cons u
  rw [hv, hw] at h
  obtain ⟨hfirst, hrest⟩ := List.cons.inj h
  exact Prod.ext hfirst (List.cons.inj hrest).1

/-- No numeral holds the parenthesis that ends a distance. -/
theorem closeParen_notMem_ofInt (n : Int) : ')' ∉ Numeral.ofInt n := by
  intro h
  rcases Numeral.eq_dash_or_isDigit_of_mem_ofInt h with hdash | hdigit
  · exact absurd hdash (by decide)
  · exact absurd hdigit (by decide)

/-- **A description shows its token and where it ends,** whatever follows it. -/
theorem describe_append_inj {t u : Token} (ht : t.QuoteFree) (hu : u.QuoteFree) {r s : Text}
    (h : describe t ++ r = describe u ++ s) : t = u ∧ r = s := by
  have hinitials := initials_eq_of_describe_append h
  -- two tokens of different kinds differ in their initials; eight pairs of one kind remain
  cases t <;> cases u <;> simp [initials] at hinitials
  case word.word x y =>
    obtain ⟨rfl, hrest⟩ := Text.enclosed_inj ht hu h
    exact ⟨rfl, hrest⟩
  case phrase.phrase x y =>
    obtain ⟨rfl, hrest⟩ := Text.enclosed_inj ht hu h
    exact ⟨rfl, hrest⟩
  case around.around m n =>
    obtain ⟨hnumeral, hrest⟩ :=
      Text.enclosed_inj (closeParen_notMem_ofInt m) (closeParen_notMem_ofInt n) h
    exact ⟨congrArg around (Numeral.ofInt_injective hnumeral), hrest⟩
  all_goals exact ⟨rfl, List.append_cancel_left h⟩

/-! ## Token lists -/

/-- The tokens behind the first one, each with the space in front of it. -/
def describeBehind (ts : List Token) : Text := ts.flatMap fun t => ' ' :: describe t

theorem describeAll_cons (t : Token) (ts : List Token) :
    describeAll (t :: ts) = describe t ++ describeBehind ts := by
  induction ts generalizing t with
  | nil => simp [describeAll, describeBehind]
  | cons u ts ih =>
      have hsplit : describeAll (t :: u :: ts) = describe t ++ ' ' :: describeAll (u :: ts) := by
        rw [describeAll, List.map_cons, List.map_cons, List.intercalate_cons_cons,
          List.append_assoc]
        rfl
      rw [hsplit, ih]
      rfl

/-- No token is described by nothing. -/
theorem describeAll_cons_ne_nil (t : Token) (ts : List Token) : describeAll (t :: ts) ≠ [] := by
  obtain ⟨rest, hrest⟩ := exists_describe_eq_cons t
  rw [describeAll_cons, hrest]
  exact List.cons_ne_nil _ _

theorem describeBehind_inj {ts us : List Token} (hts : ∀ t ∈ ts, t.QuoteFree)
    (hus : ∀ u ∈ us, u.QuoteFree) (h : describeBehind ts = describeBehind us) : ts = us := by
  induction ts generalizing us with
  | nil =>
      cases us with
      | nil => rfl
      | cons u us => cases h
  | cons t ts ih =>
      cases us with
      | nil => cases h
      | cons u us =>
          obtain ⟨ht, htmore⟩ := List.forall_mem_cons.mp hts
          obtain ⟨hu, humore⟩ := List.forall_mem_cons.mp hus
          -- behind the two spaces stand two descriptions and what follows them
          have hbehind : describe t ++ describeBehind ts = describe u ++ describeBehind us :=
            (List.cons.inj h).2
          obtain ⟨rfl, hmore⟩ := describe_append_inj ht hu hbehind
          exact congrArg (t :: ·) (ih htmore humore hmore)

theorem describeAll_inj {ts us : List Token} (hts : ∀ t ∈ ts, t.QuoteFree)
    (hus : ∀ u ∈ us, u.QuoteFree) (h : describeAll ts = describeAll us) : ts = us := by
  cases ts with
  | nil =>
      cases us with
      | nil => rfl
      | cons u us => exact absurd h.symm (describeAll_cons_ne_nil u us)
  | cons t ts =>
      cases us with
      | nil => exact absurd h (describeAll_cons_ne_nil t ts)
      | cons u us =>
          -- with a space in front, the first token stands as the others do
          apply describeBehind_inj hts hus
          show ' ' :: (describe t ++ describeBehind ts) = ' ' :: (describe u ++ describeBehind us)
          rw [← describeAll_cons, ← describeAll_cons, h]

/-! ## Tokens of search strings -/

theorem quoteFree_of_readable {t : Token} (h : Grammar.Readable t) : t.QuoteFree := by
  cases t with
  | word w =>
      -- a quote is no word code point
      intro hmem
      exact absurd (h.1.2 '"' hmem) (by decide)
  | phrase t => exact h
  | and | or | minus | around | openParen | closeParen => trivial

/-- No token of a search string holds a double quote. -/
theorem quoteFree_of_tokenize {query : Text} {ts : List Token} (h : tokenize query = .ok ts) :
    ∀ t ∈ ts, t.QuoteFree :=
  fun t ht => quoteFree_of_readable (Query.readable_of_tokenize h t ht)

/-- **Descriptions are unambiguous.**  Two token lists whose words and phrases hold no double quote
are described alike only if they are equal, whatever else the words and phrases hold.  The tokens of
search strings are such lists. -/
theorem describeAll_unambiguous :
    (∀ {ts us : List Token}, (∀ t ∈ ts, t.QuoteFree) → (∀ u ∈ us, u.QuoteFree) →
      describeAll ts = describeAll us → ts = us) ∧
    ∀ {query query' : Text} {ts us : List Token}, tokenize query = .ok ts →
      tokenize query' = .ok us → describeAll ts = describeAll us → ts = us := by
  refine ⟨describeAll_inj, fun {query query' ts us} hts hus h => ?_⟩
  exact describeAll_inj (quoteFree_of_tokenize hts) (quoteFree_of_tokenize hus) h

/-- A phrase that looks like a conjunction is not described as that conjunction, and two spellings of
one search are described alike. -/
theorem describeAll_unambiguous_lookalike :
    (∀ t ∈ [phrase "a AND WORD(b)".toList, .around 2], t.QuoteFree) ∧
    (∀ u ∈ [phrase ['a'], .and, .word ['b'], .around 2], u.QuoteFree) ∧
    describeAll [phrase "a AND WORD(b)".toList, .around 2] ≠
      describeAll [phrase ['a'], .and, .word ['b'], .around 2] ∧
    ∃ ts us, tokenize "a AND \"b  c\" AROUND(3)".toList = .ok ts ∧
      tokenize "a&\"b c\"<03>".toList = .ok us ∧ describeAll ts = describeAll us ∧ ts = us := by
  have hts : ∀ t ∈ [phrase "a AND WORD(b)".toList, .around 2], t.QuoteFree := by
    simp [QuoteFree]
  have hus : ∀ u ∈ [phrase ['a'], .and, .word ['b'], .around 2], u.QuoteFree := by
    simp [QuoteFree]
  have hword : tokenize "a AND \"b  c\" AROUND(3)".toList =
      .ok [.word ['a'], .and, .phrase "b c".toList, .around 3] := rfl
  have hsign : tokenize "a&\"b c\"<03>".toList =
      .ok [.word ['a'], .and, .phrase "b c".toList, .around 3] := rfl
  refine ⟨hts, hus, fun h => ?_, ?_⟩
  · have hequal := describeAll_unambiguous.1 hts hus h
    exact absurd hequal (by decide)
  · exact ⟨_, _, hword, hsign, rfl, describeAll_unambiguous.2 hword hsign rfl⟩

/-- A quote inside a word could pass for the one that ends it. -/
example : describeAll [.word "a\") WORD(\"b".toList] = describeAll [.word ['a'], .word ['b']] := rfl

end Token

end FullTextSearch
