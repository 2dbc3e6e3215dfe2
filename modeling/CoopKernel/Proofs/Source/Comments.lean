import Mathlib.Data.List.Count

/-! # Source text without its comments

A comment begins with two slashes and goes on to the end of its line. What ends the line is not part of it,
so a text has as many lines without its comments as with them (`count_newline_uncomment`), and each line
loses its own (`uncomment_line`).
-/

namespace CoopKernel.Source

/-- A text without its comments. The flag says that the text begins within one. -/
def uncommentFrom : Bool → List Char → List Char
  | _, [] => []
  | true, c :: rest => if c = '\n' then c :: uncommentFrom false rest else uncommentFrom true rest
  | false, '/' :: '/' :: rest => uncommentFrom true rest
  | false, c :: rest => c :: uncommentFrom false rest

def uncomment (text : List Char) : List Char := uncommentFrom false text

/-- No line end is lost. -/
theorem count_newline_uncomment (text : List Char) : (uncomment text).count '\n' = text.count '\n' := by
  suffices every : ∀ inside, (uncommentFrom inside text).count '\n' = text.count '\n' from every false
  intro inside
  fun_induction uncommentFrom inside text with
  | case1 => rfl
  | case2 rest ih => rw [List.count_cons_self, List.count_cons_self, ih]
  | case3 c rest other ih => rw [ih, List.count_cons_of_ne other]
  | case4 rest ih => rw [ih, List.count_cons_of_ne (by decide), List.count_cons_of_ne (by decide)]
  | case5 c rest code ih => rw [List.count_cons, List.count_cons, ih]

/-- Nothing is left of a comment. -/
theorem uncommentFrom_true {line : List Char} (single : '\n' ∉ line) : uncommentFrom true line = [] := by
  induction line with
  | nil => rfl
  | cons c rest ih =>
    rw [List.mem_cons, not_or] at single
    rw [uncommentFrom, if_neg (Ne.symm single.1), ih single.2]

/-- A line loses its own comment, and the lines behind it lose theirs. -/
theorem uncomment_line {line : List Char} (single : '\n' ∉ line) (rest : List Char) :
    uncomment (line ++ '\n' :: rest) = uncomment line ++ '\n' :: uncomment rest := by
  suffices every : ∀ inside,
      uncommentFrom inside (line ++ '\n' :: rest) = uncommentFrom inside line ++ '\n' :: uncomment rest from every false
  intro inside
  fun_induction uncommentFrom inside line with
  | case1 inside =>
    cases inside
    · rw [List.nil_append, uncommentFrom.eq_4]
      · rfl
      · rintro _ ⟨⟩
    · rfl
  | case2 tail => exact absurd List.mem_cons_self single
  | case3 c tail other ih =>
    rw [List.cons_append, uncommentFrom, if_neg other, ih (List.not_mem_of_not_mem_cons single)]
  | case4 tail ih =>
    rw [List.mem_cons, List.mem_cons, not_or, not_or] at single
    exact ih single.2.2
  | case5 c tail code ih =>
    rw [List.cons_append, uncommentFrom.eq_4, ih (List.not_mem_of_not_mem_cons single), List.cons_append]
    -- the slash that would make a comment of it is not the end of the line either
    intro others isSlash same
    cases tail with
    | nil => cases same
    | cons d others => exact code others isSlash (by rw [(List.cons.inj same).1])

/-- A text without slashes has no comments. -/
theorem uncomment_of_not_mem {text : List Char} (code : '/' ∉ text) : uncomment text = text := by
  induction text with
  | nil => rfl
  | cons c rest ih =>
    rw [List.mem_cons, not_or] at code
    rw [uncomment, uncommentFrom.eq_4 _ _ (fun _ isSlash => absurd isSlash.symm code.1), ← uncomment, ih code.2]

/-- Of a line that ends in a comment, what is before the comment is left. -/
theorem uncomment_comment {code text : List Char} (plain : '/' ∉ code) (single : '\n' ∉ text) :
    uncomment (code ++ '/' :: '/' :: text) = code := by
  induction code with
  | nil => exact uncommentFrom_true single
  | cons c rest ih =>
    rw [List.mem_cons, not_or] at plain
    rw [List.cons_append, uncomment, uncommentFrom.eq_4 _ _ (fun _ isSlash => absurd isSlash.symm plain.1),
      ← uncomment, ih plain.2]

/-- Lines that are written one below the other lose their comments one by one. -/
theorem uncomment_flatMap {lines : List (List Char)} (single : ∀ line ∈ lines, '\n' ∉ line) :
    uncomment (lines.flatMap (· ++ ['\n'])) = lines.flatMap (fun line => uncomment line ++ ['\n']) := by
  induction lines with
  | nil => rfl
  | cons line rest ih =>
    rw [List.flatMap_cons, List.flatMap_cons, List.append_assoc, List.singleton_append,
      uncomment_line (single line List.mem_cons_self), ih fun other member => single other (List.mem_cons_of_mem _ member),
      List.append_assoc, List.singleton_append]

end CoopKernel.Source
