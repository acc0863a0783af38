/-
# `FullTextSearch.Proofs.Expression` — well-formed queries and their text.

A well-formed query is stratified by how tightly its operators bind: disjunctions of conjunctions of
proximity chains of operands, where an operand carries its negations and a group starts over.  The
constructors hold what makes each part well-formed, so every value of these types is a query.

An expression is flattened to tokens and printed to text by two recursions over the same syntax, and
neither knows the other.  The main statement is `ofTokens_tokens`: the single pass over the tokens,
which remembers one token, writes exactly the printed text.  It goes by induction on the syntax with
the previous token and the tokens behind left open (`Disjunction.prints`).
-/
import FullTextSearch.Proofs.Rendering
import FullTextSearch.Query.Compiled

namespace FullTextSearch.Query

/-! ## Syntax -/

/-- A distance that can be read: its digits are few enough for an integer. -/
structure Distance where
  value : Nat
  short : (Numeral.ofNat value).length ≤ Numeral.maxDigits

mutual

/-- A word, a phrase or a group behind a number of negations. -/
inductive Operand where
  | word (negations : Nat) (text : Text) (solid : text.Solid)
  | phrase (negations : Nat) (text : Text) (words : text.words ≠ [])
  | group (negations : Nat) (inner : Disjunction)

/-- Operands, each at a distance from the next. -/
inductive Chain where
  | single (o : Operand)
  | near (o : Operand) (n : Distance) (rest : Chain)

/-- Proximity chains that all have to match, with or without the operator between them. -/
inductive Conjunction where
  | single (c : Chain)
  | juxtaposed (c : Chain) (rest : Conjunction)
  | and (c : Chain) (rest : Conjunction)

/-- Conjunctions of which one has to match. -/
inductive Disjunction where
  | single (c : Conjunction)
  | or (c : Conjunction) (rest : Disjunction)

end

/-! ## Tokens -/

mutual

/-- The tokens of an operand. -/
def Operand.tokens : Operand → List Token
  | .word k t _ => List.replicate k .minus ++ [.word t]
  | .phrase k t _ => List.replicate k .minus ++ [.phrase t]
  | .group k e => List.replicate k .minus ++ [.openParen] ++ e.tokens ++ [.closeParen]

/-- The tokens of a proximity chain. -/
def Chain.tokens : Chain → List Token
  | .single o => o.tokens
  | .near o n rest => o.tokens ++ [.around n.value] ++ rest.tokens

/-- The tokens of a conjunction. -/
def Conjunction.tokens : Conjunction → List Token
  | .single c => c.tokens
  | .juxtaposed c rest => c.tokens ++ rest.tokens
  | .and c rest => c.tokens ++ [.and] ++ rest.tokens

/-- The tokens of a disjunction. -/
def Disjunction.tokens : Disjunction → List Token
  | .single c => c.tokens
  | .or c rest => c.tokens ++ [.or] ++ rest.tokens

end

/-! ## Text -/

/-- Negation signs, separated by single spaces. -/
def bangs (k : Nat) : Text := List.intercalate [' '] (List.replicate k ['!'])

/-- A phrase: its words in quotes, joined in order, and in parentheses unless it is a single word
that may stand bare. -/
def printPhrase (bare : Bool) (words : List Text) : Text :=
  let joined := List.intercalate " <-> ".toList (words.map fun w => ['"'] ++ w ++ ['"'])
  if bare = true ∧ words.length = 1 then joined else ['('] ++ joined ++ [')']

/-- The operator of a distance, with the spaces around it. -/
def printDistance (n : Nat) : Text :=
  if n = 1 then " <-> ".toList else " <".toList ++ Numeral.ofNat n ++ "> ".toList

mutual

/-- An operand; `bare` says that it stands directly behind an open parenthesis or a distance. -/
def Operand.print (bare : Bool) : Operand → Text
  | .word k t _ => bangs k ++ t
  | .phrase k t _ => bangs k ++ printPhrase (bare && k == 0) t.words
  | .group k e => bangs k ++ ['('] ++ e.print true ++ [')']

/-- A proximity chain. -/
def Chain.print (bare : Bool) : Chain → Text
  | .single o => o.print bare
  | .near o n rest => o.print bare ++ printDistance n.value ++ rest.print true

/-- A conjunction; it does not show which operators were written. -/
def Conjunction.print (bare : Bool) : Conjunction → Text
  | .single c => c.print bare
  | .juxtaposed c rest | .and c rest => c.print bare ++ " & ".toList ++ rest.print false

/-- A disjunction. -/
def Disjunction.print (bare : Bool) : Disjunction → Text
  | .single c => c.print bare
  | .or c rest => c.print bare ++ " | ".toList ++ rest.print false

end

/-! ## Operands in the pass -/

theorem bangs_succ (k : Nat) : bangs (k + 1) = '!' :: (List.replicate k " !".toList).flatten := by
  induction k with
  | zero => rfl
  | succ k ih =>
      have hbangs : bangs (k + 2) = '!' :: ' ' :: bangs (k + 1) := by
        rw [bangs, List.replicate_succ, List.replicate_succ, List.intercalate_cons_cons]
        rfl
      rw [hbangs, ih, List.replicate_succ, List.flatten_cons]
      rfl

theorem phraseText_eq_printPhrase (ws : List Text) (bare : Bool) :
    phraseText ws bare = printPhrase bare ws := by
  unfold phraseText printPhrase
  split
  · simp [quoted, List.intercalate_singleton]
  · next hne =>
      rw [if_neg]
      · rfl
      · rintro ⟨rfl, hlength⟩
        obtain ⟨w, rfl⟩ := List.length_eq_one_iff.mp hlength
        exact hne w rfl rfl

/-- Negations behind a negation. -/
theorem pieces_minuses (k : Nat) (ts : List Token) :
    pieces (some .minus) (List.replicate k .minus ++ ts) =
      (List.replicate k " !".toList).flatten ++ pieces (some .minus) ts := by
  induction k with
  | zero => rfl
  | succ k ih =>
      have hbang : piece (some .minus) .minus = " !".toList := rfl
      rw [List.replicate_succ, List.cons_append, pieces_cons rfl, ih, hbang, List.replicate_succ,
        List.flatten_cons, List.append_assoc]

/-- **Negations in front of an operand.**  They take the place of the operand behind the previous
token, and are glued to it. -/
theorem pieces_negated {t : Token} (hsilent : isSilent t = false) (body : Bool → Text)
    (hbody : ∀ q, piece (some q) t = operandLead (some q) ++ body (standsBare (some q)))
    {p : Token} (hp : p ≠ .minus) (k : Nat) (ts : List Token) :
    pieces (some p) (List.replicate k .minus ++ t :: ts) =
      operandLead (some p) ++ (bangs k ++ body (standsBare (some p) && k == 0)) ++
        pieces (some t) ts := by
  cases k with
  | zero =>
      have hbangs : bangs 0 = [] := rfl
      simp [hbangs, pieces_cons hsilent, hbody]
  | succ k =>
      -- the first sign takes the operand's place, and the operand is glued to the last one
      have hbang : piece (some p) .minus = operandLead (some p) ++ ['!'] := by
        cases p <;> first | rfl | exact absurd rfl hp
      have hglued : piece (some .minus) t = body false := by rw [hbody]; rfl
      rw [List.replicate_succ, List.cons_append, pieces_cons rfl, hbang, pieces_minuses,
        pieces_cons hsilent, hglued, bangs_succ]
      simp

/-! ## The pass prints expressions -/

/-- What tokens write behind a previous one and before others, when they begin and end with an
operand. -/
def Prints (ts : List Token) (text : Bool → Text) : Prop :=
  ∀ p : Token, p ≠ .minus → ∀ rest,
    pieces (some p) (ts ++ rest) =
      operandLead (some p) ++ text (standsBare (some p)) ++ pieces (some .closeParen) rest

/-- A token that is an operand by itself, behind negations. -/
theorem Prints.negated {t : Token} (hends : t.endsOperand = true) (hsilent : isSilent t = false)
    (body : Bool → Text)
    (hbody : ∀ q, piece (some q) t = operandLead (some q) ++ body (standsBare (some q))) (k : Nat) :
    Prints (List.replicate k .minus ++ [t]) fun bare => bangs k ++ body (bare && k == 0) := by
  intro p hp rest
  have hclose : Alike (some t) (some .closeParen) := alike_of_endsOperand hends rfl
  rw [List.append_assoc, List.singleton_append, pieces_negated hsilent body hbody hp k rest,
    pieces_congr hclose]

/-- Two parts with an operator between them. -/
theorem Prints.join {ts us : List Token} {first second : Bool → Text} (hts : Prints ts first)
    (hus : Prints us second) {t : Token} (ht : t ≠ .minus) (hsilent : isSilent t = false)
    {separator : Text}
    (hseparator : piece (some .closeParen) t ++ operandLead (some t) = separator) :
    Prints (ts ++ [t] ++ us) fun bare => first bare ++ separator ++ second (standsBare (some t)) := by
  intro p hp rest
  rw [List.append_assoc, List.append_assoc, hts p hp, List.singleton_append, pieces_cons hsilent,
    hus t ht, ← hseparator]
  simp

/-- Two parts that follow each other. -/
theorem Prints.juxtapose {ts us : List Token} {first second : Bool → Text} (hts : Prints ts first)
    (hus : Prints us second) :
    Prints (ts ++ us) fun bare => first bare ++ " & ".toList ++ second false := by
  intro p hp rest
  have hlead : operandLead (some .closeParen) = " & ".toList := rfl
  have hbare : standsBare (some .closeParen) = false := rfl
  rw [List.append_assoc, hts p hp, hus .closeParen (by simp), hlead, hbare]
  simp

/-- A part in parentheses, behind negations. -/
theorem Prints.group {ts : List Token} {inner : Bool → Text} (hts : Prints ts inner) (k : Nat) :
    Prints (List.replicate k .minus ++ [.openParen] ++ ts ++ [.closeParen])
      fun _ => bangs k ++ ['('] ++ inner true ++ [')'] := by
  intro p hp rest
  have hopen := pieces_negated (t := .openParen) rfl (fun _ => ['(']) piece_openParen hp k
    (ts ++ (.closeParen :: rest))
  have hlead : operandLead (some .openParen) = [] := rfl
  have hbare : standsBare (some .openParen) = true := rfl
  have hclose : piece (some .closeParen) .closeParen = [')'] := rfl
  rw [hts .openParen (by simp), pieces_cons rfl, hlead, hbare, hclose] at hopen
  simpa using hopen

mutual

/-- **The pass prints every expression,** whatever stands before and behind it. -/
theorem Operand.prints : ∀ o : Operand, Prints o.tokens o.print
  | .word k t _ => Prints.negated rfl rfl (fun _ => t) (fun _ => rfl) k
  | .phrase k t words => by
      have hsilent : isSilent (.phrase t) = false := by simpa [isSilent] using words
      exact Prints.negated rfl hsilent (fun bare => printPhrase bare t.words)
        (fun q => by rw [piece_phrase, phraseText_eq_printPhrase]) k
  | .group k e => (Disjunction.prints e).group k

theorem Chain.prints : ∀ c : Chain, Prints c.tokens c.print
  | .single o => Operand.prints o
  | .near o n rest => by
      have hseparator : piece (some .closeParen) (.around n.value) ++
          operandLead (some (.around n.value)) = printDistance n.value := by
        by_cases hone : n.value = 1
        · rw [hone]
          rfl
        · have hint : (n.value : Int) ≠ 1 := by omega
          simp only [piece, if_neg hint, printDistance, if_neg hone]
          simp [operandLead, operandEnds, Token.endsOperand, Numeral.ofInt]
      exact (Operand.prints o).join (Chain.prints rest) (by simp) rfl hseparator

theorem Conjunction.prints : ∀ c : Conjunction, Prints c.tokens c.print
  | .single c => Chain.prints c
  | .juxtaposed c rest => (Chain.prints c).juxtapose (Conjunction.prints rest)
  | .and c rest => (Chain.prints c).join (Conjunction.prints rest) (by simp) rfl rfl

theorem Disjunction.prints : ∀ e : Disjunction, Prints e.tokens e.print
  | .single c => Conjunction.prints c
  | .or c rest => (Conjunction.prints c).join (Disjunction.prints rest) (by simp) rfl rfl

end

/-! ## The ends of an expression -/

mutual

theorem Operand.solid_of_mem : ∀ (o : Operand) {w : Text}, .word w ∈ o.tokens → w.Solid
  | .word k t solid, w, h => by
      simp only [Operand.tokens, List.mem_append, List.mem_replicate, List.mem_singleton] at h
      rcases h with ⟨_, h⟩ | h
      · cases h
      · cases h
        exact solid
  | .phrase k t _, w, h => by
      simp [Operand.tokens] at h
  | .group k e, w, h => by
      simp [Operand.tokens] at h
      exact Disjunction.solid_of_mem e h

theorem Chain.solid_of_mem : ∀ (c : Chain) {w : Text}, .word w ∈ c.tokens → w.Solid
  | .single o, w, h => Operand.solid_of_mem o h
  | .near o n rest, w, h => by
      simp [Chain.tokens] at h
      rcases h with h | h
      · exact Operand.solid_of_mem o h
      · exact Chain.solid_of_mem rest h

theorem Conjunction.solid_of_mem : ∀ (c : Conjunction) {w : Text}, .word w ∈ c.tokens → w.Solid
  | .single c, w, h => Chain.solid_of_mem c h
  | .juxtaposed c rest, w, h | .and c rest, w, h => by
      simp [Conjunction.tokens] at h
      rcases h with h | h
      · exact Chain.solid_of_mem c h
      · exact Conjunction.solid_of_mem rest h

theorem Disjunction.solid_of_mem : ∀ (e : Disjunction) {w : Text}, .word w ∈ e.tokens → w.Solid
  | .single c, w, h => Conjunction.solid_of_mem c h
  | .or c rest, w, h => by
      simp [Disjunction.tokens] at h
      rcases h with h | h
      · exact Conjunction.solid_of_mem c h
      · exact Disjunction.solid_of_mem rest h

end

/-- What begins with an operand: its first token begins one, and its text does not begin with a
blank. -/
def Begins (ts : List Token) (text : Text) : Prop :=
  (∃ t rest, ts = t :: rest ∧ startsOperand t = true ∧ isSilent t = false) ∧
    ∃ c rest, text = c :: rest ∧ isBlank c = false

theorem Begins.append {ts : List Token} {text : Text} (h : Begins ts text) (us : List Token)
    (more : Text) : Begins (ts ++ us) (text ++ more) := by
  obtain ⟨⟨t, rest, rfl, ht⟩, c, tail, rfl, hc⟩ := h
  exact ⟨⟨t, rest ++ us, rfl, ht⟩, c, tail ++ more, rfl, hc⟩

theorem Begins.negated {t : Token} {text : Text} (h : Begins [t] text) (k : Nat) :
    Begins (List.replicate k .minus ++ [t]) (bangs k ++ text) := by
  cases k with
  | zero => exact h
  | succ k =>
      rw [bangs_succ]
      exact ⟨⟨.minus, _, rfl, rfl, rfl⟩, '!', _, rfl, by decide⟩

theorem Operand.begins (o : Operand) : Begins o.tokens (o.print false) := by
  cases o with
  | word k t solid =>
      obtain ⟨c, rest, rfl⟩ := List.exists_cons_of_ne_nil solid.1
      refine Begins.negated ⟨⟨_, _, rfl, rfl, rfl⟩, c, rest, rfl, ?_⟩ k
      exact solid.2 c List.mem_cons_self
  | phrase k t words =>
      have hsilent : isSilent (.phrase t) = false := by simpa [isSilent] using words
      have hparen : printPhrase false t.words = '(' :: (List.intercalate " <-> ".toList
          (t.words.map fun w => ['"'] ++ w ++ ['"']) ++ [')']) := by simp [printPhrase]
      exact Begins.negated ⟨⟨_, _, rfl, rfl, hsilent⟩, '(', _, hparen, by decide⟩ k
  | group k e =>
      have hopen : Begins [.openParen] ['('] := ⟨⟨_, _, rfl, rfl, rfl⟩, '(', _, rfl, by decide⟩
      have hnegated := (hopen.negated k).append (e.tokens ++ [.closeParen]) (e.print true ++ [')'])
      simpa only [Operand.tokens, Operand.print, List.append_assoc] using hnegated

theorem Chain.begins (c : Chain) : Begins c.tokens (c.print false) := by
  cases c with
  | single o => exact o.begins
  | near o n rest =>
      rw [Chain.tokens, Chain.print, List.append_assoc, List.append_assoc]
      exact o.begins.append _ _

theorem Conjunction.begins (c : Conjunction) : Begins c.tokens (c.print false) := by
  cases c with
  | single c => exact c.begins
  | juxtaposed c rest =>
      rw [Conjunction.tokens, Conjunction.print, List.append_assoc]
      exact c.begins.append _ _
  | and c rest =>
      rw [Conjunction.tokens, Conjunction.print, List.append_assoc, List.append_assoc]
      exact c.begins.append _ _

theorem Disjunction.begins (e : Disjunction) : Begins e.tokens (e.print false) := by
  cases e with
  | single c => exact c.begins
  | or c rest =>
      rw [Disjunction.tokens, Disjunction.print, List.append_assoc, List.append_assoc]
      exact c.begins.append _ _

/-- **Compilation preserves structure.**  The compiled form of the tokens of any well-formed query
is its printed text behind the marker. -/
theorem ofTokens_tokens (e : Disjunction) : ofTokens e.tokens = marker ++ e.print false := by
  obtain ⟨⟨t, rest, htokens, hstart, hsilent⟩, c, tail, htext, hc⟩ := e.begins
  have hprints := Disjunction.prints e .and (by simp) []
  have hlead : operandLead (some .and) = [' '] := rfl
  have hbare : standsBare (some .and) = false := rfl
  rw [List.append_nil, pieces, List.append_nil, hlead, hbare] at hprints
  -- trimmed, the start of the text is no different from the place behind a conjunction
  have hrender : render e.tokens = Text.trimStart (' ' :: e.print false) := by
    rw [render_eq_trimStart (fun w hw => Disjunction.solid_of_mem e hw), ← trimStart_pieces_none,
      htokens, trimStart_pieces_none_of_startsOperand hstart hsilent, ← htokens, hprints]
    rfl
  have htrim : Text.trimStart (' ' :: e.print false) = Text.trimStart (e.print false) := rfl
  rw [ofTokens, hrender, htrim, htext, Text.trimStart_cons_of_not_blank hc]

end FullTextSearch.Query
