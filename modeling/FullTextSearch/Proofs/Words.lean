/-
# `FullTextSearch.Proofs.Words` — words of a text, and texts that trimming leaves alone.

A text is *solid* when it is not empty and holds no blank.  Solid texts are what splitting at blanks
yields: every word of a text is solid, a solid text is its only word, and narrowing its blanks
changes nothing.  Trimming is settled from the two ends of a text alone.
-/
import FullTextSearch.Text.Blank

namespace FullTextSearch.Text

/-! ## Solid texts -/

/-- A text that is not empty and holds no blank. -/
def Solid (t : Text) : Prop := t ≠ [] ∧ ∀ c ∈ t, isBlank c = false

theorem solid_of_mem_splitOnP {t w : Text} (h : w ∈ t.splitOnP isBlank) :
    ∀ c ∈ w, isBlank c = false ∧ c ∈ t := by
  induction t generalizing w with
  | nil =>
      rw [List.splitOnP_nil, List.mem_singleton] at h
      simp [h]
  | cons d t ih =>
      rw [List.splitOnP_cons_eq_if_modifyHead] at h
      by_cases hd : isBlank d = true
      · rw [if_pos hd, List.mem_cons] at h
        rcases h with rfl | h
        · simp
        · exact fun c hc => ⟨(ih h c hc).1, List.mem_cons_of_mem d (ih h c hc).2⟩
      · rw [if_neg hd] at h
        obtain ⟨first, rest, hsplit⟩ :=
          List.exists_cons_of_ne_nil (List.splitOnP_ne_nil isBlank t)
        rw [hsplit, List.modifyHead_cons, List.mem_cons] at h
        rcases h with rfl | h
        · -- the head piece grew by `d`, which is not blank
          have hfirst := ih (w := first) (by rw [hsplit]; exact List.mem_cons_self)
          intro c hc
          rcases List.mem_cons.mp hc with rfl | hc
          · exact ⟨by simpa using hd, List.mem_cons_self⟩
          · exact ⟨(hfirst c hc).1, List.mem_cons_of_mem d (hfirst c hc).2⟩
        · have hw := ih (w := w) (by rw [hsplit]; exact List.mem_cons_of_mem _ h)
          exact fun c hc => ⟨(hw c hc).1, List.mem_cons_of_mem d (hw c hc).2⟩

/-- Every word of a text is solid. -/
theorem solid_of_mem_words {t w : Text} (h : w ∈ words t) : Solid w :=
  ⟨ne_nil_of_mem_words h, fun c hc =>
    (solid_of_mem_splitOnP (List.mem_filter.mp h).1 c hc).1⟩

/-- A word holds only code points of its text. -/
theorem mem_of_mem_words {t w : Text} {c : Char} (h : w ∈ words t) (hc : c ∈ w) : c ∈ t :=
  (solid_of_mem_splitOnP (List.mem_filter.mp h).1 c hc).2

/-- A solid text is its only word. -/
theorem words_of_solid {w : Text} (h : Solid w) : words w = [w] := by
  rw [words, List.splitOnP_eq_singleton h.2]
  have hw : w.isEmpty = false := by simpa using h.1
  simp [hw]

/-- Narrowing blanks leaves a solid text alone. -/
theorem collapse_of_solid {w : Text} (h : Solid w) : collapse w = w := by
  rw [collapse, words_of_solid h, joinWords, List.intercalate_singleton]

/-- **Words split at a blank.** -/
theorem words_append_blank {c : Char} (hc : isBlank c = true) (s t : Text) :
    words (s ++ c :: t) = words s ++ words t := by
  rw [words, List.splitOnP_append_cons s t hc, List.filter_append]
  rfl

theorem words_cons_blank {c : Char} (hc : isBlank c = true) (t : Text) :
    words (c :: t) = words t := by
  simpa [words_nil] using words_append_blank hc [] t

/-- A code point that is not blank begins the first word. -/
theorem exists_words_cons {c : Char} (hc : isBlank c = false) (t : Text) :
    ∃ w ws, words (c :: t) = (c :: w) :: ws := by
  obtain ⟨first, rest, hsplit⟩ := List.exists_cons_of_ne_nil (List.splitOnP_ne_nil isBlank t)
  have hpieces : List.splitOnP isBlank (c :: t) = (c :: first) :: rest := by
    rw [List.splitOnP_cons_eq_if_modifyHead, hc, hsplit]
    rfl
  exact ⟨first, rest.filter fun w => !w.isEmpty, by rw [words, hpieces]; rfl⟩

theorem words_cons_ne_nil {c : Char} (hc : isBlank c = false) (t : Text) : words (c :: t) ≠ [] := by
  obtain ⟨w, ws, hwords⟩ := exists_words_cons hc t
  rw [hwords]
  exact List.cons_ne_nil _ _

/-- Only a text of blanks has no words. -/
theorem words_eq_nil_iff (t : Text) : words t = [] ↔ t.isAllBlank = true := by
  induction t with
  | nil => simp [words_nil, isAllBlank]
  | cons c t ih =>
      cases hc : isBlank c with
      | true =>
          rw [words_cons_blank hc, ih]
          simp [isAllBlank, hc]
      | false => simp [words_cons_ne_nil hc, isAllBlank, hc]

/-- Joined words are told apart again. -/
theorem words_joinWords {ws : List Text} (h : ∀ w ∈ ws, Solid w) : words (joinWords ws) = ws := by
  induction ws with
  | nil => exact words_nil
  | cons w ws ih =>
      obtain ⟨hw, hrest⟩ := List.forall_mem_cons.mp h
      cases ws with
      | nil => rw [joinWords, List.intercalate_singleton, words_of_solid hw]
      | cons w' ws =>
          have hspace : isBlank ' ' = true := by decide
          have hjoin : joinWords (w :: w' :: ws) = w ++ ' ' :: joinWords (w' :: ws) := by
            rw [joinWords, joinWords, List.intercalate_cons_cons]
            simp
          rw [hjoin, words_append_blank hspace, ih hrest, words_of_solid hw]
          rfl

/-- Narrowing blanks keeps the words. -/
theorem words_collapse (t : Text) : words (collapse t) = words t :=
  words_joinWords fun _ hw => solid_of_mem_words hw

/-- What is joined holds the code points of its pieces and of the separator. -/
theorem mem_of_mem_intercalate {separator : Text} {pieces : List Text} {c : Char}
    (h : c ∈ List.intercalate separator pieces) : c ∈ separator ∨ ∃ piece ∈ pieces, c ∈ piece := by
  induction pieces with
  | nil => simp [List.intercalate_nil] at h
  | cons first rest ih =>
      cases rest with
      | nil =>
          rw [List.intercalate_singleton] at h
          exact Or.inr ⟨first, List.mem_cons_self, h⟩
      | cons second rest =>
          rw [List.intercalate_cons_cons, List.mem_append, List.mem_append] at h
          rcases h with (h | h) | h
          · exact Or.inr ⟨first, List.mem_cons_self, h⟩
          · exact Or.inl h
          · rcases ih h with hsep | ⟨piece, hpiece, hc⟩
            · exact Or.inl hsep
            · exact Or.inr ⟨piece, List.mem_cons_of_mem first hpiece, hc⟩

/-- Narrowing blanks brings in no code point but the space. -/
theorem mem_or_eq_space_of_mem_collapse {t : Text} {c : Char} (h : c ∈ collapse t) :
    c ∈ t ∨ c = ' ' := by
  rcases mem_of_mem_intercalate h with hspace | ⟨word, hword, hc⟩
  · exact Or.inr (List.mem_singleton.mp hspace)
  · exact Or.inl (mem_of_mem_words hword hc)

/-! ## Trimming from the ends -/

/-- A text that does not end in a blank. -/
def EndsSolid (t : Text) : Prop := ∀ c ∈ t.getLast?, isBlank c = false

theorem endsSolid_iff (t : Text) : t.getLast?.any isBlank = false ↔ EndsSolid t := by
  rw [EndsSolid]
  cases t.getLast? <;> simp

instance (t : Text) : Decidable (EndsSolid t) :=
  decidable_of_decidable_of_iff (endsSolid_iff t)

theorem endsSolid_concat {c : Char} (hc : isBlank c = false) (s : Text) : EndsSolid (s ++ [c]) := by
  intro d hd
  rw [List.getLast?_concat] at hd
  cases hd
  exact hc

theorem endsSolid_append {s t : Text} (hs : EndsSolid s) (ht : EndsSolid t) :
    EndsSolid (s ++ t) := by
  intro c hc
  rw [List.getLast?_append, Option.mem_def, Option.or_eq_some_iff] at hc
  rcases hc with hc | ⟨_, hc⟩
  · exact ht c hc
  · exact hs c hc

/-- Only a text that is not empty decides how a longer one ends. -/
theorem endsSolid_append_right {t : Text} (hne : t ≠ []) (ht : EndsSolid t) (s : Text) :
    EndsSolid (s ++ t) := by
  intro c hc
  rw [List.getLast?_append, List.getLast?_eq_some_getLast hne, Option.some_or] at hc
  exact ht c (by rwa [List.getLast?_eq_some_getLast hne])

theorem Solid.endsSolid {w : Text} (h : Solid w) : EndsSolid w :=
  fun c hc => h.2 c (List.mem_of_mem_getLast? hc)

/-- Trimming the start of a text keeps its end. -/
theorem EndsSolid.trimStart {t : Text} (h : EndsSolid t) : EndsSolid (trimStart t) := by
  intro c hc
  obtain ⟨blanks, hsplit⟩ := List.dropWhile_suffix (l := t) isBlank
  refine h c ?_
  have hlast : (List.dropWhile isBlank t).getLast? = some c := hc
  rw [← hsplit, List.getLast?_append, hlast]
  rfl

/-- A text that does not end in a blank holds more than blanks. -/
theorem EndsSolid.isAllBlank_eq_false {t : Text} (h : EndsSolid t) (hne : t ≠ []) :
    t.isAllBlank = false := by
  have hlast := h (t.getLast hne) (List.getLast?_eq_some_getLast hne)
  exact List.all_eq_false.mpr ⟨_, List.getLast_mem hne, by simp [hlast]⟩

/-- Behind a text that holds more than blanks, trimming the start changes nothing. -/
theorem trimStart_append {s : Text} (h : s.isAllBlank = false) (t : Text) :
    trimStart (s ++ t) = trimStart s ++ t := by
  induction s with
  | nil => cases h
  | cons c s ih =>
      cases hc : isBlank c with
      | true =>
          have hrest : isAllBlank s = false := by simpa [isAllBlank, hc] using h
          have hdrop : ∀ u : Text, trimStart (c :: u) = trimStart u := fun u =>
            List.dropWhile_cons_of_pos hc
          rw [List.cons_append, hdrop, hdrop, ih hrest]
      | false =>
          rw [List.cons_append, trimStart_cons_of_not_blank hc, trimStart_cons_of_not_blank hc]
          rfl

/-- A code point that is not blank stops trimming at the start. -/
theorem trimStart_append_cons {c : Char} (hc : isBlank c = false) (s t : Text) :
    trimStart (s ++ c :: t) = trimStart s ++ c :: t := by
  cases hs : s.isAllBlank with
  | false => exact trimStart_append hs (c :: t)
  | true =>
      have hblank : ∀ d ∈ s, isBlank d = true := List.all_eq_true.mp hs
      have hnone : trimStart (s ++ []) = [] := List.dropWhile_append_of_pos hblank
      rw [List.append_nil] at hnone
      rw [hnone, List.nil_append]
      show List.dropWhile isBlank (s ++ c :: t) = c :: t
      rw [List.dropWhile_append_of_pos hblank]
      exact trimStart_cons_of_not_blank hc

/-- Trimming the start keeps how a text ends, unless that is in a blank. -/
theorem getLast?_trimStart_eq_some_iff {c : Char} (hc : isBlank c = false) (t : Text) :
    (trimStart t).getLast? = some c ↔ t.getLast? = some c := by
  constructor
  · intro h
    obtain ⟨blanks, hsplit⟩ := List.dropWhile_suffix (l := t) isBlank
    have hlast : (List.dropWhile isBlank t).getLast? = some c := h
    rw [← hsplit, List.getLast?_append, hlast]
    rfl
  · intro h
    obtain ⟨front, rfl⟩ := List.getLast?_eq_some_iff.mp h
    rw [trimStart_append_cons hc, List.getLast?_concat]

/-- A text that does not end in a blank keeps its end. -/
theorem trimEnd_of_endsSolid {t : Text} (h : EndsSolid t) : trimEnd t = t := by
  rw [trimEnd]
  cases hr : t.reverse with
  | nil => simpa using hr.symm
  | cons c rest =>
      have hc : isBlank c = false := h c (by rw [List.getLast?_eq_head?_reverse, hr]; rfl)
      rw [List.dropWhile_cons_of_neg (by simpa using hc), ← hr, List.reverse_reverse]

/-! ## Trimming both ends -/

/-- A code point in front of a text is trimmed with its end only if it is a blank and nothing else
is left. -/
theorem trimEnd_cons (c : Char) (t : Text) :
    trimEnd (c :: t) = if trimEnd t = [] ∧ isBlank c = true then [] else c :: trimEnd t := by
  rw [trimEnd, trimEnd, List.reverse_cons, List.dropWhile_append]
  cases hdrop : List.dropWhile isBlank t.reverse with
  | nil => cases hc : isBlank c <;> simp [hc]
  | cons d rest => simp

theorem trim_cons_of_blank {c : Char} (hc : isBlank c = true) (t : Text) :
    trim (c :: t) = trim t := by
  rw [trim, trim, trimStart, trimStart, List.dropWhile_cons_of_pos hc]

theorem trim_cons_of_not_blank {c : Char} (hc : isBlank c = false) (t : Text) :
    trim (c :: t) = c :: trimEnd t := by
  rw [trim, trimStart_cons_of_not_blank hc, trimEnd_cons, if_neg (by simp [hc])]

/-- The two ends of a text are trimmed in any order. -/
theorem trim_eq_trimStart_trimEnd (t : Text) : trim t = trimStart (trimEnd t) := by
  induction t with
  | nil => rfl
  | cons c t ih =>
      cases hc : isBlank c with
      | true =>
          rw [trim_cons_of_blank hc, ih, trimEnd_cons]
          split
          · next hnone =>
              rw [hnone.1]
          · exact (List.dropWhile_cons_of_pos hc).symm
      | false =>
          rw [trim_cons_of_not_blank hc, trimEnd_cons, if_neg (by simp [hc]),
            trimStart_cons_of_not_blank hc]

/-- Only blanks are trimmed away altogether. -/
theorem trim_eq_nil_iff (t : Text) : trim t = [] ↔ t.isAllBlank = true := by
  induction t with
  | nil => simp [trim, trimStart, trimEnd, isAllBlank]
  | cons c t ih =>
      cases hc : isBlank c with
      | true =>
          rw [trim_cons_of_blank hc, ih]
          simp [isAllBlank, hc]
      | false => simp [trim_cons_of_not_blank hc, isAllBlank, hc]

/-- What trimming leaves holds a word. -/
theorem words_trim_ne_nil {t : Text} (h : trim t ≠ []) : words (trim t) ≠ [] := by
  obtain ⟨c, rest, hcons⟩ := List.exists_cons_of_ne_nil h
  have hhead : ∀ d ∈ (trim t).head?, isBlank d = false := by
    rw [trim_eq_trimStart_trimEnd]
    exact head_trimStart_not_blank (trimEnd t)
  rw [hcons]
  exact words_cons_ne_nil (hhead c (by rw [hcons]; rfl)) rest

end FullTextSearch.Text
