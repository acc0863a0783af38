/-
# `FullTextSearch.Proofs.LeadingMarker` — where user text is taken for compiled text.

The marker is looked for in front of a text as it was typed, but the text that is rendered from it
lacks the blanks and the empty phrases that it may begin with.  A search string that hides its
marker behind these is therefore read as a search string, and its rendered text is then taken for a
compiled one.

The main statement is `normalize_again`: this is the only way in which the two are mixed up.
Normalizing a rendered text takes a marker off and changes nothing else, and the rendered text has a
marker exactly if the search string `LeadsWithMarker`.  It goes through the tokens: the marker
stands in front of the rendered text exactly if a word that has it is the first token that writes
anything (`isCompiled_render_iff`), and that shows in the search string (`leadsMarked_iff`).
-/
import FullTextSearch.Proofs.Desugar

namespace FullTextSearch.Query

open Grammar

/-! ## Texts and tokens behind the marker -/

/-- A text that writes nothing: blanks, and quotes around blanks. -/
inductive Mute : Text → Prop
  | nil : Mute []
  | blank {c : Char} {t : Text} (blank : isBlank c = true) (more : Mute t) : Mute (c :: t)
  | quote {gap t : Text} (blank : gap.isAllBlank = true) (more : Mute t) :
      Mute (['"'] ++ gap ++ ['"'] ++ t)

/-- **A marker in front of all that writes anything.** -/
def LeadsWithMarker (x : Text) : Prop := ∃ lead rest, Mute lead ∧ x = lead ++ marker ++ rest

/-- A token list whose first token that writes anything is a word with a marker. -/
def LeadsMarked (ts : List Token) : Prop :=
  ∃ w, ts.find? (fun t => !isSilent t) = some (.word w) ∧ isCompiled w = true

theorem Mute.append_blanks {gap t : Text} (hgap : gap.isAllBlank = true) (h : Mute t) :
    Mute (gap ++ t) := by
  induction gap with
  | nil => exact h
  | cons c gap ih =>
      simp only [Text.isAllBlank, List.all_cons, Bool.and_eq_true] at hgap
      exact .blank hgap.1 (ih hgap.2)

theorem leadsMarked_cons_silent {t : Token} (h : isSilent t = true) (ts : List Token) :
    LeadsMarked (t :: ts) ↔ LeadsMarked ts := by
  rw [LeadsMarked, LeadsMarked, List.find?_cons_of_neg (by simp [h])]

theorem leadsMarked_cons {t : Token} (h : isSilent t = false) (ts : List Token) :
    LeadsMarked (t :: ts) ↔ ∃ w, t = .word w ∧ isCompiled w = true := by
  rw [LeadsMarked, List.find?_cons_of_pos (by simp [h])]
  simp

/-! ## The marker in rendered text -/

theorem isCompiled_iff (query : Text) : isCompiled query = true ↔ marker <+: query :=
  List.isPrefixOf_iff_prefix

/-- No marker reaches into a text that does not go on with one of its code points. -/
theorem isCompiled_append {t : Text} (h : ∀ c ∈ t.head?, c ∉ marker) (w : Text) :
    isCompiled (w ++ t) = isCompiled w := by
  rw [Bool.eq_iff_iff, isCompiled_iff, isCompiled_iff]
  constructor
  · intro hmarker
    rcases List.prefix_or_prefix_of_prefix hmarker (List.prefix_append w t) with hw | hw
    · exact hw
    · -- the word is a part of the marker, which can only be all of it
      obtain ⟨rest, hrest⟩ := hw
      cases rest with
      | nil =>
          rw [List.append_nil] at hrest
          exact ⟨[], by rw [List.append_nil, hrest]⟩
      | cons d rest =>
          rw [← hrest, List.prefix_append_right_inj] at hmarker
          obtain ⟨t, rfl⟩ := hmarker
          have hd : d ∈ marker := by
            rw [← hrest]
            simp
          exact absurd hd (h d rfl)
  · intro hw
    exact hw.trans (List.prefix_append w t)

/-- Behind a negation only a word can write the marker. -/
theorem isCompiled_trimStart_piece {t : Token} (ht : Readable t) (ts : List Token) :
    isCompiled (Text.trimStart (piece (some .minus) t ++ pieces (some t) ts)) = true ↔
      ∃ w, t = .word w ∧ isCompiled w = true := by
  cases t with
  | word w =>
      have hw : w.Solid := ht.1.solid
      have hblank : isBlank ' ' = true := by decide
      obtain ⟨c, rest, rfl⟩ := List.exists_cons_of_ne_nil hw.1
      have hhead : ∀ d ∈ (pieces (some (.word (c :: rest))) ts).head?, d ∉ marker := by
        intro d hd
        rcases head?_pieces_of_endsOperand (p := .word (c :: rest)) rfl ts d hd with rfl | rfl
        · decide
        · decide
      have hpiece : piece (some .minus) (.word (c :: rest)) = c :: rest := rfl
      rw [hpiece, List.cons_append,
        Text.trimStart_cons_of_not_blank (hw.2 c List.mem_cons_self), ← List.cons_append,
        isCompiled_append hhead]
      simp
  | phrase t =>
      have hopen : ∃ rest, piece (some .minus) (.phrase t) = '(' :: rest := by
        rw [piece_phrase]
        rcases t.words with _ | ⟨w, _ | ⟨w', ws⟩⟩ <;> exact ⟨_, rfl⟩
      obtain ⟨rest, hrest⟩ := hopen
      rw [hrest]
      simp only [reduceCtorEq, false_and, exists_false, iff_false, Bool.not_eq_true]
      rfl
  | around n =>
      simp only [reduceCtorEq, false_and, exists_false, iff_false, Bool.not_eq_true, piece]
      split
      · rfl
      · rfl
  | and | or | minus | openParen | closeParen =>
      simp only [reduceCtorEq, false_and, exists_false, iff_false, Bool.not_eq_true]
      rfl

/-- **Rendered text has a marker** exactly if it starts with a word that has one. -/
theorem isCompiled_render_iff {ts : List Token} (h : ∀ t ∈ ts, Readable t) :
    isCompiled (render ts) = true ↔ LeadsMarked ts := by
  rw [render_eq_trimStart (readable_solid h)]
  induction ts with
  | nil => simp [pieces, Text.trimStart, isCompiled, marker, LeadsMarked]
  | cons t ts ih =>
      obtain ⟨ht, hrest⟩ := List.forall_mem_cons.mp h
      cases hsilent : isSilent t with
      | true => rw [pieces_cons_silent hsilent, leadsMarked_cons_silent hsilent, ih hrest]
      | false =>
          rw [pieces_cons hsilent, leadsMarked_cons hsilent,
            isCompiled_trimStart_piece ht]

/-! ## The marker in search strings -/

/-- No keyword and no sign starts like the marker. -/
theorem eq_word_of_lexeme {t : Token} {l : Text} (h : Lexeme t l) (hhead : l.head? = some 'p') :
    t = .word l := by
  have hcapital : ∀ w : Text, w.head? = some 'p' → w.capitals.head? = some 'P' := by
    intro w hw
    obtain ⟨rest, rfl⟩ := List.head?_eq_some_iff.mp hw
    rfl
  cases h with
  | word => rfl
  | andWord keyword | orWord keyword =>
      have hkeyword := hcapital l hhead
      rw [keyword] at hkeyword
      exact absurd hkeyword (by decide)
  | @around w d n keyword distance =>
      have hw : w ≠ [] := by
        rintro rfl
        exact absurd keyword (by decide)
      obtain ⟨c, w, rfl⟩ := List.exists_cons_of_ne_nil hw
      have hkeyword := hcapital (c :: w) hhead
      rw [keyword] at hkeyword
      exact absurd hkeyword (by decide)
  | phrase | angle | andSign | orSign | dash | bang | openParen | closeParen | arrow =>
      exact absurd hhead (by simp)

/-- A search string with the marker in front starts with a word that has it. -/
theorem leadsMarked_of_marker {ts : List Token} {rest : Text} (h : Spells ts (marker ++ rest)) :
    LeadsMarked ts := by
  -- the marker starts with no blank, so there is no gap in front of the first lexeme
  have hgap : ∀ {gap : Text} (behind : Text), gap.isAllBlank = true →
      marker ++ rest = gap ++ behind → gap = [] := by
    intro gap behind hblank hx
    cases gap with
    | nil => rfl
    | cons c gap =>
        obtain rfl : 'p' = c := (List.cons.inj hx).1
        exact absurd (List.all_eq_true.mp hblank 'p' List.mem_cons_self) (by decide)
  generalize hx : marker ++ rest = x at h
  cases h with
  | blank hblank =>
      obtain rfl := hgap [] hblank (by simpa using hx)
      cases hx
  | @token gap l behind t ts hblank spelling parted more =>
      obtain rfl := hgap (l ++ behind) hblank (by simpa using hx)
      rw [List.nil_append] at hx
      obtain ⟨c, l, rfl⟩ := List.exists_cons_of_ne_nil spelling.ne_nil
      obtain rfl : 'p' = c := (List.cons.inj hx).1
      obtain rfl := eq_word_of_lexeme spelling rfl
      have hword : IsBareword ('p' :: l) := spelling.readable.1
      -- the code points of the marker make words, so the first word holds all of it
      have hbehind : ∀ d ∈ behind.head?, d ∉ marker := by
        intro d hd hmem
        have hmarker : marker.all isWordChar = true := by decide
        have hd' := List.all_eq_true.mp hmarker d hmem
        exact Bool.false_ne_true ((parted hword d hd).1.symm.trans hd')
      refine (leadsMarked_cons rfl ts).mpr ⟨_, rfl, ?_⟩
      rw [← isCompiled_append hbehind, ← hx]
      exact isCompiled_marker_append rest
  | @unclosed gap s hblank quote =>
      obtain rfl := hgap (['"'] ++ s) hblank (by simpa using hx)
      exact absurd (List.cons.inj hx).1 (by decide)

/-- What writes nothing in front of a search string is no part of the tokens that write. -/
theorem leadsMarked_of_mute {lead : Text} (h : Mute lead) {ts : List Token} {rest : Text}
    (hspells : Spells ts (lead ++ marker ++ rest)) : LeadsMarked ts := by
  induction h generalizing ts with
  | nil => exact leadsMarked_of_marker hspells
  | @blank c t hblank more ih =>
      have hgap : Text.isAllBlank [c] = true := by simp [Text.isAllBlank, hblank]
      exact ih ((Scan.spells_append_blanks hgap).mp hspells)
  | @quote gap t hblank more ih =>
      have hquote : '"' ∉ gap := fun hmem =>
        absurd (List.all_eq_true.mp hblank '"' hmem) (by decide)
      have hbare : ¬ IsBareword (['"'] ++ gap ++ ['"']) :=
        not_isBareword_of_mem (c := '"') (by simp) rfl
      rw [List.append_assoc, List.append_assoc] at hspells
      obtain ⟨ts, rfl, hmore⟩ := Scan.spells_lexeme_append (.phrase hquote) hbare hspells
      rw [leadsMarked_cons_silent]
      · exact ih (by rwa [List.append_assoc])
      · simp [isSilent, Text.words_collapse, (Text.words_eq_nil_iff gap).mpr hblank]

/-- Only quotes around blanks spell a token that writes nothing. -/
theorem exists_quote_of_silent {t : Token} {l : Text} (h : Lexeme t l)
    (hsilent : isSilent t = true) :
    ∃ gap, l = ['"'] ++ gap ++ ['"'] ∧ gap.isAllBlank = true := by
  cases h with
  | @phrase s closed =>
      have hwords : s.words = [] := by simpa [isSilent, Text.words_collapse] using hsilent
      exact ⟨s, rfl, (Text.words_eq_nil_iff s).mp hwords⟩
  | word | andWord | andSign | orWord | orSign | dash | bang | openParen | closeParen | angle
  | arrow | around => cases hsilent

/-- The first token that writes anything stands behind a text that writes nothing. -/
theorem leadsWithMarker_of_spells {ts : List Token} {x : Text} (h : Spells ts x)
    (hmarked : LeadsMarked ts) : LeadsWithMarker x := by
  induction h with
  | blank =>
      obtain ⟨w, hw, -⟩ := hmarked
      cases hw
  | @token gap lexeme rest t ts blank spelling parted more ih =>
      cases hsilent : isSilent t with
      | true =>
          obtain ⟨lead, behind, hlead, rfl⟩ := ih ((leadsMarked_cons_silent hsilent ts).mp hmarked)
          obtain ⟨s, rfl, hs⟩ := exists_quote_of_silent spelling hsilent
          have hmute := (Mute.quote hs hlead).append_blanks blank
          exact ⟨_, behind, hmute, by simp⟩
      | false =>
          obtain ⟨w, rfl, hw⟩ := (leadsMarked_cons hsilent ts).mp hmarked
          cases spelling
          obtain ⟨behind, rfl⟩ := (isCompiled_iff lexeme).mp hw
          exact ⟨gap, behind ++ rest, by simpa using Mute.nil.append_blanks blank, by simp⟩
  | @unclosed gap s blank quote =>
      obtain ⟨w, hw, -⟩ := hmarked
      cases List.mem_singleton.mp (List.mem_of_find?_eq_some hw)

theorem leadsMarked_iff {ts : List Token} {x : Text} (h : Spells ts x) :
    LeadsMarked ts ↔ LeadsWithMarker x := by
  constructor
  · exact leadsWithMarker_of_spells h
  · rintro ⟨lead, rest, hlead, rfl⟩
    exact leadsMarked_of_mute hlead h

/-! ## Normalizing again -/

/-- Where a search string is normalized, it has tokens and their rendered text is the answer. -/
theorem exists_spells_of_normalize {x y : Text} (raw : isCompiled x = false)
    (h : normalize x = .ok y) : ∃ ts, Spells ts x ∧ y = render ts := by
  rw [normalize, compile, if_neg (by simp [raw])] at h
  cases hread : Token.tokenize x with
  | error fault =>
      rw [hread] at h
      cases h
  | ok ts =>
      rw [hread] at h
      refine ⟨ts, (Scan.tokenize_eq_ok.trans (Scan.run_eq_ok_iff x 0 ts)).mp hread, ?_⟩
      have hy : stripMarker (marker ++ render ts) = y := Except.ok.inj h
      rw [← hy, stripMarker_marker_append]

/-- Normalizing a rendered text takes its marker off, if it has one, and changes nothing else. -/
theorem normalize_render {ts : List Token} (h : ∀ t ∈ ts, Readable t) :
    normalize (render ts) = .ok (stripMarker (render ts)) := by
  cases hmarker : isCompiled (render ts) with
  | true => rw [normalize, compile, if_pos hmarker, Except.map]
  | false =>
      have hread : Token.tokenize (render ts) = .ok (desugar none ts) :=
        (Scan.tokenize_eq_ok.trans (Scan.run_eq_ok_iff _ 0 _)).mpr (spells_desugar_render h)
      have hcompile : compile (render ts) = .ok (marker ++ render ts) := by
        rw [compile, if_neg (by simp [hmarker]), hread, Except.map, ofTokens, render_desugar h]
      rw [normalize_of_compile hcompile, stripMarker_marker_append, stripMarker,
        if_neg (by simp [hmarker])]

theorem stripMarker_eq_self_iff (x : Text) : stripMarker x = x ↔ isCompiled x = false := by
  cases hmarker : isCompiled x with
  | true =>
      obtain ⟨rest, rfl⟩ := (isCompiled_iff x).mp hmarker
      have hlength : (marker ++ rest).length = rest.length + 3 := rfl
      rw [stripMarker_marker_append]
      simp only [Bool.true_eq_false, iff_false]
      intro h
      rw [← h] at hlength
      omega
  | false => simp [stripMarker, hmarker]

/-- **Normalizing again changes nothing, but for a hidden marker.**  A search string that is
normalized yields a text that can be normalized too, and only the marker of that text can be lost.
The text has one exactly if the search string leads with it behind blanks and empty phrases, and
exactly then the second text is another one. -/
theorem normalize_again {x y : Text} (raw : isCompiled x = false) (h : normalize x = .ok y) :
    normalize y = .ok (stripMarker y) ∧
      (isCompiled y = false ↔ ¬ LeadsWithMarker x) ∧
      (normalize y = .ok y ↔ ¬ LeadsWithMarker x) := by
  obtain ⟨ts, hspells, rfl⟩ := exists_spells_of_normalize raw h
  have hagain := normalize_render hspells.readable
  have hmarker : isCompiled (render ts) = false ↔ ¬ LeadsWithMarker x := by
    rw [← leadsMarked_iff hspells, ← isCompiled_render_iff hspells.readable, Bool.not_eq_true]
  refine ⟨hagain, hmarker, ?_⟩
  rw [hagain, Except.ok.injEq, stripMarker_eq_self_iff, hmarker]

/-- A marker behind a negation or another operand is a part of a word. -/
theorem normalize_again_negated :
    isCompiled "-pg:x \"\" pg:y".toList = false ∧
      normalize "-pg:x \"\" pg:y".toList = .ok "!pg:x & pg:y".toList ∧
      normalize "!pg:x & pg:y".toList = .ok "!pg:x & pg:y".toList ∧
      ¬ LeadsWithMarker "-pg:x \"\" pg:y".toList := by
  have hraw : isCompiled "-pg:x \"\" pg:y".toList = false := rfl
  have hfirst : normalize "-pg:x \"\" pg:y".toList = .ok "!pg:x & pg:y".toList := rfl
  have hsecond : normalize "!pg:x & pg:y".toList = .ok "!pg:x & pg:y".toList := rfl
  exact ⟨hraw, hfirst, hsecond, (normalize_again hraw hfirst).2.2.mp hsecond⟩

/-- A blank in front of the marker hides it once, and then it is taken off as if it had been put
there. -/
theorem normalize_again_loses_marker :
    ¬ ∀ x y, isCompiled x = false → normalize x = .ok y →
      normalize y = .ok y ∧ isCompiled y = false := by
  intro h
  have hfirst : normalize " pg:x".toList = .ok "pg:x".toList := rfl
  have hsecond : normalize "pg:x".toList = .ok "x".toList := rfl
  have hsame := (h " pg:x".toList "pg:x".toList rfl hfirst).1
  rw [hsecond] at hsame
  exact absurd (Except.ok.inj hsame) (by decide)

end FullTextSearch.Query
