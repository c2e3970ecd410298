import Mathlib.Data.List.Basic
import Skirmish.Content.Path

/-!
# The components of a path

A path that is continued keeps its components and is followed by the steps of what continues it
(`Path.components_join_of_below`); where what continues it starts with a slash, its own components are all
there is (`Path.components_of_top`).

**The law of places** (`Path.place_eq_iff`) is of paths without two dots: they lead to one place exactly when
they are equal, unless one of them begins at a single dot and the other begins at no place of its own. With
two dots more paths lead to one place.
-/

namespace Skirmish.Path

variable {s t next : String} {p q base : Path} {c : Component} {cs way : List Component}

/-! ## Slashes at the ends of a text -/

theorem startsWith_slash : s.startsWith "/" = true ↔ s.toList.head? = some '/' := by
  rw [String.startsWith_string_iff]
  cases s.toList with
  | nil => simp
  | cons c cs => simp [eq_comm]

/-- What follows a text does not change how it starts. -/
theorem startsWith_append (filled : s ≠ "") : (s ++ t).startsWith "/" = s.startsWith "/" := by
  have some : s.toList ≠ [] := fun none => filled (String.toList_eq_nil_iff.mp none)
  rw [Bool.eq_iff_iff, startsWith_slash, startsWith_slash, String.toList_append,
    List.head?_append_of_ne_nil _ some]

theorem endsWith_slash : s.endsWith "/" = true ↔ s.toList.getLast? = some '/' := by
  rw [String.endsWith_eq_endsWith_toSlice, String.Slice.endsWith_string_iff, String.copy_toSlice,
    List.getLast?_eq_some_iff]
  exact ⟨fun ⟨l, h⟩ => ⟨l, h.symm⟩, fun ⟨l, h⟩ => ⟨l, h.symm⟩⟩

/-- What stands before a text does not change how it ends. -/
theorem endsWith_append (filled : t ≠ "") : (s ++ t).endsWith "/" = t.endsWith "/" := by
  have some : t.toList ≠ [] := fun none => filled (String.toList_eq_nil_iff.mp none)
  rw [Bool.eq_iff_iff, endsWith_slash, endsWith_slash, String.toList_append,
    List.getLast?_append_of_ne_nil _ some]

/-- A text that ends with a slash is some text with a slash behind it. -/
theorem exists_of_endsWith (h : s.endsWith "/" = true) : ∃ r, s = r ++ "/" := by
  obtain ⟨l, hl⟩ := List.getLast?_eq_some_iff.mp (endsWith_slash.mp h)
  exact ⟨.ofList l, String.toList_injective (by simp [hl])⟩

/-! ## Steps -/

theorem pieces_append (s t : String) : pieces (s ++ "/" ++ t) = pieces s ++ pieces t := by
  have chars : (s ++ "/" ++ t).toList = s.toList ++ '/' :: t.toList := by simp
  rw [pieces, chars, List.splitOn_append_cons_self, List.map_append]
  rfl

theorem pieces_slash (s : String) : pieces (s ++ "/") = pieces s ++ pieces "" := by
  rw [← pieces_append, String.append_empty]

theorem pieces_ne_nil (s : String) : pieces s ≠ [] := by
  simp [pieces]

/-- **A slash divides steps from steps.** -/
theorem steps_append (s t : String) : steps (s ++ "/" ++ t) = steps s ++ steps t := by
  rw [steps, pieces_append, List.filterMap_append]
  rfl

theorem steps_slash (s : String) : steps (s ++ "/") = steps s := by
  have nothing : steps "" = [] := by decide +kernel
  rw [← String.append_empty (s := s ++ "/"), steps_append, nothing, List.append_nil]

/-- Where a text begins is settled by its first slash. -/
theorem origin_append (s t : String) : origin (s ++ "/" ++ t) = origin (s ++ "/") := by
  have start : (s ++ "/" ++ t).startsWith "/" = (s ++ "/").startsWith "/" := startsWith_append (by simp)
  rw [origin, origin, start, pieces_append, pieces_slash, List.head?_append_of_ne_nil _ (pieces_ne_nil s),
    List.head?_append_of_ne_nil _ (pieces_ne_nil s)]

theorem origin_slash (filled : s ≠ "") : origin (s ++ "/") = origin s := by
  rw [origin, origin, startsWith_append filled, pieces_slash, List.head?_append_of_ne_nil _ (pieces_ne_nil s)]

theorem origin_of_top (top : s.startsWith "/" = true) : origin s = [.top] := if_pos top

/-- Only a text that starts with a slash begins at the top. -/
theorem startsWith_of_origin (h : origin s = [.top]) : s.startsWith "/" = true := by
  rw [origin] at h
  split at h
  · assumption
  · split at h <;> simp at h

theorem components_of_top (top : s.startsWith "/" = true) : components ⟨s⟩ = .top :: steps s := by
  rw [components, origin_of_top top]
  rfl

theorem origin_cases (s : String) : origin s = [.top] ∨ origin s = [.here] ∨ origin s = [] := by
  rw [origin]
  split
  · exact .inl rfl
  · split <;> simp

/-- Only a beginning is at the top or at a single dot. -/
theorem mem_steps (h : c ∈ steps s) : c ≠ .top ∧ c ≠ .here := by
  obtain ⟨piece, -, h⟩ := List.mem_filterMap.mp h
  rw [step?] at h
  split at h
  · cases h
  · split at h <;> cases h <;> simp

/-! ## Joined paths -/

theorem join_of_top (top : next.startsWith "/" = true) : base.join next = ⟨next⟩ := if_pos top

theorem join_of_below (below : next.startsWith "/" = false) : base.join next = ⟨base.opened ++ next⟩ :=
  if_neg (by simp [below])

/-- **A path that is continued below** begins where it began, and the steps of what continues it follow. -/
theorem way_of_below (filled : base.text ≠ "") (below : next.startsWith "/" = false) :
    origin (base.join next).text = origin base.text ∧
      steps (base.join next).text = steps base.text ++ steps next := by
  rw [join_of_below below, opened]
  by_cases slash : base.text.endsWith "/" = true
  · obtain ⟨r, hr⟩ := exists_of_endsWith slash
    rw [if_pos (.inr slash), hr, origin_append, steps_append, steps_slash]
    exact ⟨rfl, rfl⟩
  · rw [if_neg (by simp [filled, slash]), origin_append, origin_slash filled, steps_append]
    exact ⟨rfl, rfl⟩

theorem text_join_ne (filled : next ≠ "") : (base.join next).text ≠ "" := by
  rw [join]
  split <;> simp [filled]

theorem opened_append (filled : t ≠ "") (s : String) : opened ⟨s ++ t⟩ = s ++ opened ⟨t⟩ := by
  simp only [opened, endsWith_append filled, String.append_eq_empty_iff, filled, and_false, false_or]
  split
  · rfl
  · rw [String.append_assoc]

theorem startsWith_opened (filled : base.text ≠ "") (next : String) :
    (base.opened ++ next).startsWith "/" = base.text.startsWith "/" := by
  rw [opened]
  split
  · exact startsWith_append filled
  · rw [String.append_assoc]
    exact startsWith_append filled

/-- Paths may be joined from either end. -/
theorem join_assoc (filled : base.text ≠ "") (root : Path) (next : String) :
    root.join (base.join next) = (root.join base).join next := by
  cases top : next.startsWith "/" with
  | true => rw [join_of_top top, join_of_top top, join_of_top top]
  | false =>
    rw [join_of_below top, join_of_below top]
    cases top' : base.text.startsWith "/" with
    | true => rw [join_of_top ((startsWith_opened filled next).trans top'), join_of_top top']
    | false =>
      rw [join_of_below ((startsWith_opened filled next).trans top'), join_of_below top', opened_append filled,
        String.append_assoc]

/-! ## Places -/

/-- What is left of a way that never goes back is all but single dots. -/
theorem foldl_follow (ahead : .up ∉ cs) (way : List Component) :
    cs.foldl follow way = way ++ cs.filter (· ≠ .here) := by
  induction cs generalizing way with
  | nil => simp
  | cons c cs ih =>
    rw [List.mem_cons, not_or] at ahead
    rw [List.foldl_cons, ih ahead.2]
    cases c with
    | top | name => simp [follow]
    | here => simp [follow]
    | up => exact absurd rfl ahead.1

/-- A place without the way back: where the path begins, and the steps from there. -/
theorem place_eq (ahead : .up ∉ p.components) :
    p.place = (origin p.text).filter (· ≠ .here) ++ steps p.text := by
  have left : p.place = p.components.filter (· ≠ .here) := foldl_follow ahead []
  rw [left, components, List.filter_append]
  congr 1
  rw [List.filter_eq_self]
  intro c hc
  simpa using (mem_steps hc).2

/-- A place at the top is none of a path that begins elsewhere. -/
theorem place_ne_of_top (other : origin t ≠ [.top]) :
    .top :: cs ≠ (origin t).filter (· ≠ .here) ++ steps t := by
  intro same
  have steps_eq : steps t = .top :: cs := by
    rcases origin_cases t with top | here | none
    · exact absurd top other
    · simpa [here] using same.symm
    · simpa [none] using same.symm
  have inside : .top ∈ steps t := by simp [steps_eq]
  exact (mem_steps inside).1 rfl

/-- **Paths without two dots lead to one place exactly when they are equal**, when they begin at one place or
one of them begins at the top. -/
theorem place_eq_iff (ahead : .up ∉ p.components) (ahead' : .up ∉ q.components)
    (kin : origin p.text = origin q.text ∨ origin p.text = [.top] ∨ origin q.text = [.top]) :
    p.place = q.place ↔ p.components = q.components := by
  constructor
  · intro same
    rw [place_eq ahead, place_eq ahead'] at same
    have begins : origin p.text = origin q.text := by
      rcases kin with begins | top | top
      · exact begins
      · by_contra other
        rw [top] at same other
        exact place_ne_of_top (Ne.symm other) same
      · by_contra other
        rw [top] at same other
        exact place_ne_of_top other same.symm
    rw [begins] at same
    rw [components, components, begins, List.append_cancel_left same]
  · intro same
    rw [place, place, same]

end Skirmish.Path
