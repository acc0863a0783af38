/-
# `FullTextSearch.Proofs.Juxtaposition` — search strings joined by nothing, `AND` and `OR`.

Two search strings side by side mean that both have to match, and with `OR` between them that one of
them has to.  On normalized text this is exact: the text of the whole is the two texts with ` & ` or
` | ` between them, whatever the two hold, as long as an operand ends the first and an operand
begins the second.

The tokens of the whole are those of the parts, with the connective if one was written
(`Scan.readsBehind_of_separates`).  The pass over them splits at the last token of the first part,
since it remembers no more than that token (`render_append`), and what it writes for the second part
differs from its text alone only in what goes in front of the first operand
(`pieces_and_of_beginsWithOperand`).  The main statement is `normalize_joined`.
-/
import FullTextSearch.Proofs.Concatenation
import FullTextSearch.Proofs.DesugaredForm
import FullTextSearch.Proofs.LeadingMarker

namespace FullTextSearch.Query

open Grammar

/-! ## Tokens that write -/

/-- The tokens without the phrases that hold no word. -/
def loud (ts : List Token) : List Token := ts.filter fun t => !isSilent t

/-- The last token that is no empty phrase ends an operand. -/
def EndsInOperand (ts : List Token) : Prop :=
  ∃ t, (loud ts).getLast? = some t ∧ t.endsOperand = true

/-- The first token that is no empty phrase begins an operand. -/
def BeginsWithOperand (ts : List Token) : Prop :=
  ∃ t, (loud ts).head? = some t ∧ startsOperand t = true

theorem pieces_loud (p : Option Token) (ts : List Token) : pieces p (loud ts) = pieces p ts := by
  induction ts generalizing p with
  | nil => rfl
  | cons t ts ih =>
      cases hsilent : isSilent t with
      | true =>
          have hloud : loud (t :: ts) = loud ts := List.filter_cons_of_neg (by simp [hsilent])
          rw [hloud, pieces_cons_silent hsilent, ih]
      | false =>
          have hloud : loud (t :: ts) = t :: loud ts := List.filter_cons_of_pos (by simp [hsilent])
          rw [hloud, pieces_cons hsilent, pieces_cons hsilent, ih]

theorem EndsInOperand.exists_concat {ts : List Token} (h : EndsInOperand ts) :
    ∃ front t, loud ts = front ++ [t] ∧ t ∈ ts ∧ t.endsOperand = true ∧ isSilent t = false := by
  obtain ⟨t, hlast, hends⟩ := h
  obtain ⟨front, hfront⟩ := List.getLast?_eq_some_iff.mp hlast
  have hmem : t ∈ loud ts := by simp [hfront]
  obtain ⟨hts, hloud⟩ := List.mem_filter.mp hmem
  exact ⟨front, t, hfront, hts, hends, by simpa using hloud⟩

theorem BeginsWithOperand.exists_cons {us : List Token} (h : BeginsWithOperand us) :
    ∃ u rest, loud us = u :: rest ∧ u ∈ us ∧ startsOperand u = true ∧ isSilent u = false := by
  obtain ⟨u, hfirst, hstarts⟩ := h
  obtain ⟨rest, hrest⟩ := List.head?_eq_some_iff.mp hfirst
  have hmem : u ∈ loud us := by simp [hrest]
  obtain ⟨hus, hloud⟩ := List.mem_filter.mp hmem
  exact ⟨u, rest, hrest, hus, hstarts, by simpa using hloud⟩

/-! ## Where the pass splits -/

/-- The last token of a list that writes anything. -/
def lastLoud (ts : List Token) : Option Token := (loud ts).getLast?

theorem lastLoud_cons_silent {t : Token} (h : isSilent t = true) (ts : List Token) :
    lastLoud (t :: ts) = lastLoud ts := by
  have hloud : loud (t :: ts) = loud ts := List.filter_cons_of_neg (by simp [h])
  rw [lastLoud, hloud, lastLoud]

theorem lastLoud_cons {t : Token} (h : isSilent t = false) (ts : List Token) :
    lastLoud (t :: ts) = (lastLoud ts).or (some t) := by
  have hloud : loud (t :: ts) = t :: loud ts := List.filter_cons_of_pos (by simp [h])
  rw [lastLoud, hloud, List.getLast?_cons, lastLoud]
  cases (loud ts).getLast? <;> rfl

/-- The pass over two lists goes on behind the last token of the first that writes. -/
theorem pieces_append (p : Option Token) (ts us : List Token) :
    pieces p (ts ++ us) = pieces p ts ++ pieces ((lastLoud ts).or p) us := by
  induction ts generalizing p with
  | nil => rfl
  | cons t ts ih =>
      rw [List.cons_append]
      cases hsilent : isSilent t with
      | true =>
          rw [pieces_cons_silent hsilent, pieces_cons_silent hsilent, lastLoud_cons_silent hsilent]
          exact ih p
      | false =>
          rw [pieces_cons hsilent, pieces_cons hsilent, lastLoud_cons hsilent, ih (some t),
            List.append_assoc, Option.or_assoc, Option.some_or]

/-- What ends an operand writes something. -/
theorem piece_ne_nil {t : Token} (ht : Readable t) (hends : t.endsOperand = true)
    (p : Option Token) : piece p t ≠ [] := by
  cases t with
  | word w => exact List.append_ne_nil_of_right_ne_nil _ ht.1.1
  | phrase t => exact List.append_ne_nil_of_right_ne_nil _ (phraseText_ne_nil _ _)
  | closeParen => exact List.cons_ne_nil _ _
  | and | or | minus | around | openParen => cases hends

theorem pieces_concat_ne_nil {t : Token} (hsilent : isSilent t = false)
    (hpiece : ∀ p, piece p t ≠ []) (p : Option Token) (ts : List Token) :
    pieces p (ts ++ [t]) ≠ [] := by
  rw [pieces_append, pieces_cons hsilent]
  exact List.append_ne_nil_of_right_ne_nil _ (List.append_ne_nil_of_left_ne_nil (hpiece _) _)

/-- **The text of two token lists** is the text of the first, which an operand ends, and what the
second writes behind that operand. -/
theorem render_append {ts us : List Token} (hts : ∀ t ∈ ts, Readable t)
    (hus : ∀ t ∈ us, Readable t) (hends : EndsInOperand ts) :
    ∃ t, t.endsOperand = true ∧ render (ts ++ us) = render ts ++ pieces (some t) us := by
  obtain ⟨front, t, hfront, hmem, ht, hsilent⟩ := hends.exists_concat
  refine ⟨t, ht, ?_⟩
  have hlast : lastLoud ts = some t := by rw [lastLoud, hfront, List.getLast?_concat]
  have hsplit : pieces (some .minus) (ts ++ us) =
      pieces (some .minus) ts ++ pieces (some t) us := by
    rw [pieces_append, hlast, Option.some_or]
  -- the operand is no blank, so trimming stops in front of it or earlier
  have hne : pieces (some .minus) ts ≠ [] := by
    rw [← pieces_loud, hfront]
    exact pieces_concat_ne_nil hsilent (piece_ne_nil (hts t hmem) ht) _ _
  have hfirst := readable_solid hts
  have hboth : ∀ w, .word w ∈ ts ++ us → w.Solid := by
    apply readable_solid
    intro u hu
    rcases List.mem_append.mp hu with hu | hu
    · exact hts u hu
    · exact hus u hu
  rw [render_eq_trimStart hboth, render_eq_trimStart hfirst, hsplit,
    Text.trimStart_append ((endsSolid_pieces hfirst _).isAllBlank_eq_false hne)]

/-! ## What an operand writes behind a connective -/

/-- Behind a connective an operand writes a space and no other blank in front. -/
theorem exists_piece_and {t : Token} (ht : Readable t) (hstarts : startsOperand t = true) :
    ∃ c rest, piece (some .and) t = ' ' :: c :: rest ∧ isBlank c = false := by
  cases t with
  | word w =>
      have hw : w.Solid := ht.1.solid
      obtain ⟨c, rest, rfl⟩ := List.exists_cons_of_ne_nil hw.1
      exact ⟨c, rest, rfl, hw.2 c List.mem_cons_self⟩
  | phrase t =>
      rw [piece_phrase]
      rcases t.words with _ | ⟨w, _ | ⟨w', ws⟩⟩ <;> exact ⟨'(', _, rfl, by decide⟩
  | minus => exact ⟨'!', _, rfl, by decide⟩
  | openParen => exact ⟨'(', _, rfl, by decide⟩
  | and | or | around | closeParen => cases hstarts

/-- Behind a conjunction, tokens that begin with an operand write a space and their text. -/
theorem pieces_and_of_beginsWithOperand {us : List Token} (hus : ∀ t ∈ us, Readable t)
    (hbegins : BeginsWithOperand us) : pieces (some .and) us = ' ' :: render us := by
  obtain ⟨u, rest, hrest, hmem, hu, hsilent⟩ := hbegins.exists_cons
  obtain ⟨c, tail, hpiece, hc⟩ := exists_piece_and (hus u hmem) hu
  have hrender : render us = Text.trimStart (pieces (some .and) us) := by
    rw [render_eq_trimStart (readable_solid hus), ← trimStart_pieces_none, ← pieces_loud, hrest,
      trimStart_pieces_none_of_startsOperand hu hsilent, ← hrest, pieces_loud]
  have htext : pieces (some .and) us = ' ' :: c :: (tail ++ pieces (some u) rest) := by
    rw [← pieces_loud, hrest, pieces_cons hsilent, hpiece]
    rfl
  have htrim : Text.trimStart (' ' :: c :: (tail ++ pieces (some u) rest)) =
      c :: (tail ++ pieces (some u) rest) := Text.trimStart_cons_of_not_blank hc
  rw [hrender, htext, htrim]

/-- Behind an operand, another one is joined by the conjunction that was left out. -/
theorem pieces_juxtaposed {t : Token} (ht : t.endsOperand = true) {us : List Token}
    (hus : ∀ t ∈ us, Readable t) (hbegins : BeginsWithOperand us) :
    pieces (some t) us = " & ".toList ++ render us := by
  obtain ⟨u, rest, hrest, -, hu, hsilent⟩ := hbegins.exists_cons
  have hand : piece (some t) .and = " &".toList := by cases t <;> first | rfl | cases ht
  rw [← pieces_loud, hrest, pieces_cons hsilent, piece_of_endsOperand ht hu, List.append_assoc,
    ← pieces_cons hsilent, ← hrest, pieces_loud, pieces_and_of_beginsWithOperand hus hbegins, hand]
  rfl

/-- Behind an operand and a written connective, an operand follows that connective. -/
theorem pieces_connected {t u : Token} (ht : t.endsOperand = true) (hu : u.isConnective = true)
    {us : List Token} (hus : ∀ t ∈ us, Readable t) (hbegins : BeginsWithOperand us) :
    pieces (some t) (u :: us) = piece (some .closeParen) u ++ ' ' :: render us := by
  have hsilent : isSilent u = false := by cases u <;> first | rfl | cases hu
  have halike : Alike (some u) (some .and) := alike_of_isConnective hu rfl
  have hclose : Alike (some t) (some .closeParen) := alike_of_endsOperand ht rfl
  rw [pieces_cons hsilent, pieces_congr halike, pieces_and_of_beginsWithOperand hus hbegins,
    hclose u]

/-! ## Joined search strings -/

theorem normalize_of_tokenize {x : Text} {ts : List Token} (raw : isCompiled x = false)
    (h : Token.tokenize x = .ok ts) : normalize x = .ok (render ts) := by
  have hcompile : compile x = .ok (ofTokens ts) := by
    rw [compile, if_neg (by simp [raw]), h]
    rfl
  rw [normalize_of_compile hcompile, ofTokens, stripMarker_marker_append]

/-- Behind a raw text, nothing that follows a space makes a marker. -/
theorem isCompiled_append_space {p : Text} (raw : isCompiled p = false) (rest : Text) :
    isCompiled (p ++ ' ' :: rest) = false := by
  rw [isCompiled_append, raw]
  intro c hc
  cases hc
  decide

section Joined

variable {p q : Text} {before after : List Token}

/-- The normalized text of two search strings with a separator between them. -/
theorem normalize_separated (raw : isCompiled p = false) (hp : Token.tokenize p = .ok before)
    (hq : Token.tokenize q = .ok after) (heven : p.count '"' % 2 = 0)
    (hends : EndsInOperand before) {rest : Text} {between : List Token}
    (hseparator : Scan.Separates (' ' :: rest) between) (hbetween : ∀ t ∈ between, Readable t)
    {link : Text}
    (hlink : ∀ t : Token, t.endsOperand = true →
      pieces (some t) (between ++ after) = link ++ render after) :
    normalize (p ++ ' ' :: rest ++ q) = .ok (render before ++ link ++ render after) := by
  have hraw : isCompiled (p ++ ' ' :: rest ++ q) = false := by
    rw [List.append_assoc]
    exact isCompiled_append_space raw (rest ++ q)
  have htokens := (Scan.readsBehind_of_separates hp heven hseparator q).answer after hq
  have hbehind : ∀ t ∈ between ++ after, Readable t := by
    intro t ht
    rcases List.mem_append.mp ht with ht | ht
    · exact hbetween t ht
    · exact readable_of_tokenize hq t ht
  obtain ⟨t, ht, hrender⟩ := render_append (readable_of_tokenize hp) hbehind hends
  rw [normalize_of_tokenize hraw htokens, List.append_assoc, hrender, hlink t ht,
    List.append_assoc]

/-- Two search strings with a written connective between them. -/
theorem normalize_connected (raw : isCompiled p = false) (hp : Token.tokenize p = .ok before)
    (hq : Token.tokenize q = .ok after) (heven : p.count '"' % 2 = 0)
    (hends : EndsInOperand before) (hbegins : BeginsWithOperand after) {rest : Text} {u : Token}
    (hu : u.isConnective = true)
    (hpassed : ∀ offset, Scan.advance offset (' ' :: rest) (.text []) = .ok ([u], .text [])) :
    normalize (p ++ ' ' :: rest ++ q) =
      .ok (render before ++ (piece (some .closeParen) u ++ [' ']) ++ render after) := by
  have hreadable : ∀ t ∈ [u], Readable t := by
    intro t ht
    rw [List.mem_singleton.mp ht]
    cases u with
    | and | or => trivial
    | word | phrase | minus | around | openParen | closeParen => cases hu
  refine normalize_separated raw hp hq heven hends
    (Scan.separates_of_blank (by decide) hpassed) hreadable ?_
  intro t ht
  rw [List.singleton_append, pieces_connected ht hu (readable_of_tokenize hq) hbegins,
    List.append_assoc, List.singleton_append]

/-- **Juxtaposition is conjunction, and `OR` is disjunction.**  Of two search strings of which the
first leaves no quote open and ends in an operand and the second begins with one, the normalized
texts are joined by `&` where the search strings stand side by side or are joined by `AND` or `&`,
and by `|` where they are joined by `OR` or `|`. -/
theorem normalize_joined (hpRaw : isCompiled p = false) (hqRaw : isCompiled q = false)
    (hp : Token.tokenize p = .ok before) (hq : Token.tokenize q = .ok after)
    (heven : p.count '"' % 2 = 0) (hends : EndsInOperand before)
    (hbegins : BeginsWithOperand after) :
    ∃ a b, normalize p = .ok a ∧ normalize q = .ok b ∧
      normalize (p ++ " ".toList ++ q) = .ok (a ++ " & ".toList ++ b) ∧
      normalize (p ++ " AND ".toList ++ q) = .ok (a ++ " & ".toList ++ b) ∧
      normalize (p ++ " & ".toList ++ q) = .ok (a ++ " & ".toList ++ b) ∧
      normalize (p ++ " OR ".toList ++ q) = .ok (a ++ " | ".toList ++ b) ∧
      normalize (p ++ " | ".toList ++ q) = .ok (a ++ " | ".toList ++ b) := by
  refine ⟨render before, render after, normalize_of_tokenize hpRaw hp,
    normalize_of_tokenize hqRaw hq, ?_, ?_, ?_, ?_, ?_⟩
  · have hspace : Scan.Separates [' '] [] := Scan.separates_blanks (by decide) (by decide)
    refine normalize_separated hpRaw hp hq heven hends hspace (by simp) ?_
    intro t ht
    exact pieces_juxtaposed ht (readable_of_tokenize hq) hbegins
  · exact normalize_connected hpRaw hp hq heven hends hbegins (u := .and) rfl fun offset => rfl
  · exact normalize_connected hpRaw hp hq heven hends hbegins (u := .and) rfl fun offset => rfl
  · exact normalize_connected hpRaw hp hq heven hends hbegins (u := .or) rfl fun offset => rfl
  · exact normalize_connected hpRaw hp hq heven hends hbegins (u := .or) rfl fun offset => rfl

/-- A parenthesis in each part that the other one does not know of, operators without operands, and
empty phrases where the parts meet. -/
theorem normalize_joined_unbalanced :
    normalize "|(a \"\"".toList = .ok "| (a".toList ∧
      normalize "\"\" -b)&".toList = .ok "!b) &".toList ∧
      normalize "|(a \"\" \"\" -b)&".toList = .ok "| (a & !b) &".toList ∧
      normalize "|(a \"\" AND \"\" -b)&".toList = .ok "| (a & !b) &".toList ∧
      normalize "|(a \"\" OR \"\" -b)&".toList = .ok "| (a | !b) &".toList := by
  have hfirst : normalize "|(a \"\"".toList = .ok "| (a".toList := rfl
  have hsecond : normalize "\"\" -b)&".toList = .ok "!b) &".toList := rfl
  obtain ⟨a, b, ha, hb, hspace, hand, -, hor, -⟩ :=
    normalize_joined (p := "|(a \"\"".toList) (q := "\"\" -b)&".toList) rfl rfl rfl rfl
      (by decide) ⟨.word ['a'], rfl, rfl⟩ ⟨.minus, rfl, rfl⟩
  obtain rfl := Except.ok.inj (ha.symm.trans hfirst)
  obtain rfl := Except.ok.inj (hb.symm.trans hsecond)
  exact ⟨hfirst, hsecond, hspace, hand, hor⟩

end Joined

end FullTextSearch.Query
