import Diagnostics.Text.Blank

/-! # Where the words of a text stand

The first word of a text stands behind blanks only and ends at a blank or at the end of the text.
So a search for the second word of two that starts no further on than the first one ends finds it.
-/
namespace Diagnostics.Text

/-- A text begins with a word behind some blanks, and the rest does not go on with the word. -/
structure StartsWith (gap word rest cs : List Char) : Prop where
  eq_append : cs = gap ++ word ++ rest
  gap_blank : ∀ c ∈ gap, isBlank c = true
  word_ne_nil : word ≠ []
  word_solid : ∀ c ∈ word, isBlank c = false
  rest_blank : ∀ c ∈ rest.head?, isBlank c = true

section Words
variable {c d : Char} {cs w : List Char} {ws : List (List Char)}

theorem words_cons (c : Char) (cs : List Char) :
    words (c :: cs) = if isBlank c then words cs else match cs, words cs with
      | d :: _, w :: ws => if isBlank d then [c] :: w :: ws else (c :: w) :: ws
      | _, ws => [c] :: ws :=
  words.eq_def (c :: cs)

theorem words_of_blank (h : isBlank c = true) : words (c :: cs) = words cs := by
  rw [words_cons, if_pos h]

/-- A word of one character ends where a blank or nothing is behind it. -/
theorem words_of_end (h : isBlank c = false) (hend : ∀ d ∈ cs.head?, isBlank d = true) :
    words (c :: cs) = [c] :: words cs := by
  have hsolid : ¬ isBlank c = true := by simp [h]
  rw [words_cons, if_neg hsolid]
  cases cs with
  | nil => rfl
  | cons d ds =>
    have hd : isBlank d = true := hend d rfl
    cases hwords : words (d :: ds) with
    | nil => rfl
    | cons w ws => exact if_pos hd

theorem words_ne_nil (h : isBlank c = false) : words (c :: cs) ≠ [] := by
  have hsolid : ¬ isBlank c = true := by simp [h]
  rw [words_cons, if_neg hsolid]
  split
  · split <;> simp
  · simp

/-- A character joins the word that begins right behind it. -/
theorem words_of_solid (h : isBlank c = false) (hd : isBlank d = false)
    (hwords : words (d :: cs) = w :: ws) : words (c :: d :: cs) = (c :: w) :: ws := by
  have hsolid : ¬ isBlank c = true := by simp [h]
  have hnext : ¬ isBlank d = true := by simp [hd]
  rw [words_cons, if_neg hsolid, hwords]
  exact if_neg hnext

theorem StartsWith.cons_blank {gap rest : List Char} (h : StartsWith gap w rest cs)
    (hc : isBlank c = true) : StartsWith (c :: gap) w rest (c :: cs) where
  eq_append := by rw [h.eq_append, List.cons_append, List.cons_append]
  gap_blank := List.forall_mem_cons.mpr ⟨hc, h.gap_blank⟩
  word_ne_nil := h.word_ne_nil
  word_solid := h.word_solid
  rest_blank := h.rest_blank

theorem StartsWith.of_end (hc : isBlank c = false) (hend : ∀ d ∈ cs.head?, isBlank d = true) :
    StartsWith [] [c] cs (c :: cs) where
  eq_append := rfl
  gap_blank := List.forall_mem_nil _
  word_ne_nil := List.cons_ne_nil c []
  word_solid := List.forall_mem_singleton.mpr hc
  rest_blank := hend

/-- No blank stands in front of a word that begins with the first character. -/
theorem StartsWith.gap_eq_nil {gap rest : List Char} (h : StartsWith gap w rest (d :: cs))
    (hd : isBlank d = false) : gap = [] := by
  cases gap with
  | nil => rfl
  | cons b gap =>
    have hb : isBlank b = true := h.gap_blank b List.mem_cons_self
    obtain ⟨rfl, -⟩ := List.cons.inj h.eq_append
    rw [hb] at hd
    cases hd

theorem StartsWith.cons_solid {rest : List Char} (h : StartsWith [] w rest cs)
    (hc : isBlank c = false) : StartsWith [] (c :: w) rest (c :: cs) where
  eq_append := congrArg (c :: ·) h.eq_append
  gap_blank := h.gap_blank
  word_ne_nil := List.cons_ne_nil c w
  word_solid := List.forall_mem_cons.mpr ⟨hc, h.word_solid⟩
  rest_blank := h.rest_blank

/-- The first word of a text is the one that it starts with, and the others are those of the rest. -/
theorem exists_startsWith (h : words cs = w :: ws) :
    ∃ gap rest, StartsWith gap w rest cs ∧ words rest = ws := by
  induction cs generalizing w with
  | nil => cases h
  | cons c cs ih =>
    cases hc : isBlank c with
    | true =>
      rw [words_of_blank hc] at h
      obtain ⟨gap, rest, hstarts, hrest⟩ := ih h
      exact ⟨c :: gap, rest, hstarts.cons_blank hc, hrest⟩
    | false =>
      -- The word goes on exactly if there is a next character and it is not blank.
      by_cases hend : ∀ d ∈ cs.head?, isBlank d = true
      · rw [words_of_end hc hend] at h
        obtain ⟨rfl, rfl⟩ := List.cons.inj h
        exact ⟨[], cs, .of_end hc hend, rfl⟩
      · cases cs with
        | nil => simp at hend
        | cons d cs =>
          have hd : isBlank d = false := by simpa using hend
          have hne : words (d :: cs) ≠ [] := words_ne_nil hd
          obtain ⟨v, vs, hwords⟩ := List.exists_cons_of_ne_nil hne
          rw [words_of_solid hc hd hwords] at h
          obtain ⟨rfl, rfl⟩ := List.cons.inj h
          obtain ⟨gap, rest, hstarts, hrest⟩ := ih hwords
          obtain rfl := hstarts.gap_eq_nil hd
          exact ⟨[], rest, hstarts.cons_solid hc, hrest⟩

/-- A text of two words, with all that stands around them. -/
theorem eq_append_of_words {v : List Char} (h : words cs = [w, v]) :
    ∃ front between back, cs = front ++ w ++ (between ++ v ++ back) := by
  obtain ⟨front, rest, hstarts, hrest⟩ := exists_startsWith h
  obtain ⟨between, back, hsecond, -⟩ := exists_startsWith hrest
  exact ⟨front, between, back, by rw [← hsecond.eq_append, ← hstarts.eq_append]⟩

theorem length_le_of_words (h : words cs = w :: ws) : w.length ≤ cs.length := by
  obtain ⟨gap, rest, hstarts, -⟩ := exists_startsWith h
  have hlength := congrArg List.length hstarts.eq_append
  simp only [List.length_append] at hlength
  omega

end Words

section Search
variable {word cs : List Char} {i start : Nat}

theorem firstIndex?_append (front word back : List Char) :
    ∃ i, firstIndex? word (front ++ word ++ back) = some i := by
  induction front with
  | nil =>
    refine ⟨0, ?_⟩
    cases h : word ++ back with
    | nil =>
      obtain ⟨rfl, rfl⟩ := List.append_eq_nil_iff.mp h
      rfl
    | cons c cs =>
      have hfront : word.isPrefixOf (c :: cs) = true :=
        List.isPrefixOf_iff_prefix.mpr ⟨back, h⟩
      rw [List.nil_append, h, firstIndex?, if_pos hfront]
  | cons c front ih =>
    obtain ⟨i, hi⟩ := ih
    rw [List.cons_append, List.cons_append, firstIndex?]
    split
    · exact ⟨0, rfl⟩
    · exact ⟨i + 1, by rw [hi]; rfl⟩

/-- What is found lies within the text. -/
theorem firstIndex?_add_length_le (h : firstIndex? word cs = some i) :
    i + word.length ≤ cs.length := by
  induction cs generalizing i with
  | nil =>
    cases word with
    | nil =>
      cases h
      exact Nat.le_refl 0
    | cons c word => cases h
  | cons c cs ih =>
    rw [firstIndex?] at h
    split at h
    · next hfront =>
      cases h
      have hle := (List.isPrefixOf_iff_prefix.mp hfront).length_le
      omega
    · obtain ⟨j, hj, rfl⟩ := Option.map_eq_some_iff.mp h
      have hle := ih hj
      rw [List.length_cons]
      omega

theorem firstIndexFrom?_add_length_le (hstart : start ≤ cs.length)
    (h : firstIndexFrom? word start cs = some i) : i + word.length ≤ cs.length := by
  obtain ⟨j, hj, rfl⟩ := Option.map_eq_some_iff.mp h
  have hle := firstIndex?_add_length_le hj
  rw [List.length_drop] at hle
  omega

/-- Behind the first word at the latest, a search for the second one of two begins in time. -/
theorem exists_firstIndexFrom? {w v : List Char} (h : words cs = [w, v]) :
    ∃ i, firstIndexFrom? v w.length cs = some i ∧ i + v.length ≤ cs.length := by
  obtain ⟨front, between, back, hcs⟩ := eq_append_of_words h
  have hdrop : cs.drop w.length = (front ++ w).drop w.length ++ between ++ v ++ back := by
    have hlength : w.length ≤ (front ++ w).length := by simp
    rw [hcs, List.drop_append_of_le_length hlength]
    simp only [List.append_assoc]
  obtain ⟨j, hj⟩ := firstIndex?_append ((front ++ w).drop w.length ++ between) v back
  have hfound : firstIndexFrom? v w.length cs = some (j + w.length) := by
    rw [firstIndexFrom?, hdrop, hj]
    rfl
  exact ⟨_, hfound, firstIndexFrom?_add_length_le (length_le_of_words h) hfound⟩

end Search

end Diagnostics.Text
