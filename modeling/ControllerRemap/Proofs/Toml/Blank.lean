import ControllerRemap.Toml.Space

/-! Where the parts of a line end. -/

namespace ControllerRemap.Toml

section

variable {p : Char → Bool} {cs : List Char} {c : Char} (more : List Char)

theorem takeWhile_append_cons (h : ∀ d ∈ cs, p d = true) (hc : p c = false) :
    (cs ++ c :: more).takeWhile p = cs := by
  rw [List.takeWhile_append_of_pos h, List.takeWhile_cons_of_neg (by simp [hc]), List.append_nil]

theorem dropWhile_append_cons (h : ∀ d ∈ cs, p d = true) (hc : p c = false) :
    (cs ++ c :: more).dropWhile p = c :: more := by
  rw [List.dropWhile_append_of_pos h, List.dropWhile_cons_of_neg (by simp [hc])]

end

/-- The text after a value goes on with a line end, a comma or a closing bracket. -/
def Ends (rest : List Char) : Prop := ∃ c more, rest = c :: more ∧ (c = '\n' ∨ c = ',' ∨ c = ']')

theorem Ends.head?_ne {rest : List Char} (h : Ends rest) {c : Char} (hc : c ∉ ['\n', ',', ']']) :
    rest.head? ≠ some c := by
  obtain ⟨d, more, rfl, hd⟩ := h
  rintro ⟨⟩
  exact hc (by simpa using hd)

/-- White space, line ends and comments. -/
def isBlankStart (c : Char) : Bool := isSpace c || c == '\n' || c == '\r' || c == '#'

theorem skipBlank_of_not {c : Char} (h : isBlankStart c = false) (more : List Char) :
    skipBlank false (c :: more) = c :: more := by
  simp only [isBlankStart, Bool.or_eq_false_iff, beq_eq_false_iff_ne] at h
  obtain ⟨⟨⟨hspace, hnewline⟩, hreturn⟩, hcomment⟩ := h
  rw [skipBlank]
  · simp [hspace, hcomment]
  · exact hnewline
  · exact fun _ h _ => hreturn h

theorem skipBlank_newline (rest : List Char) : skipBlank false ('\n' :: rest) = skipBlank false rest := by
  rw [skipBlank]

theorem skipBlank_space (rest : List Char) : skipBlank false (' ' :: rest) = skipBlank false rest := by
  rw [skipBlank]
  · rfl
  · decide
  · exact fun _ h _ => absurd h (by decide)

theorem skipSpace_of_not {c : Char} (h : isSpace c = false) (more : List Char) :
    skipSpace (c :: more) = c :: more :=
  List.dropWhile_cons_of_neg (by simp [h])

theorem lineEnd?_newline (rest : List Char) : lineEnd? ('\n' :: rest) = some rest := by
  rw [lineEnd?, skipSpace_of_not (by decide)]
  rfl

end ControllerRemap.Toml
