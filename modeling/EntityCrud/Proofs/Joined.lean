/-! Lists joined by a separator, and lists cut at one. -/
namespace EntityCrud

theorem of_mem_intercalate {α : Type} {separator : List α} {parts : List (List α)} {a : α}
    (member : a ∈ separator.intercalate parts) : a ∈ separator ∨ ∃ part ∈ parts, a ∈ part := by
  induction parts with
  | nil => simp at member
  | cons first rest ih =>
    cases rest with
    | nil => exact .inr ⟨first, by simp, by simpa using member⟩
    | cons second rest =>
      rw [List.intercalate_cons_cons] at member
      rcases List.mem_append.mp member with front | back
      · rcases List.mem_append.mp front with here | there
        · exact .inr ⟨first, by simp, here⟩
        · exact .inl there
      · rcases ih back with there | ⟨part, listed, inside⟩
        · exact .inl there
        · exact .inr ⟨part, List.mem_cons_of_mem first listed, inside⟩

theorem mem_intercalate_of_mem {α : Type} {separator : List α} {parts : List (List α)} {a : α}
    {part : List α} (listed : part ∈ parts) (inside : a ∈ part) :
    a ∈ separator.intercalate parts := by
  induction parts with
  | nil => contradiction
  | cons first rest ih =>
    cases rest with
    | nil =>
      obtain rfl := List.mem_singleton.mp listed
      rwa [List.intercalate_singleton]
    | cons second rest =>
      rw [List.intercalate_cons_cons]
      rcases List.mem_cons.mp listed with rfl | later
      · exact List.mem_append_left _ (List.mem_append_left _ inside)
      · exact List.mem_append_right _ (ih later)

theorem mem_intercalate_iff {α : Type} {separator : List α} {parts : List (List α)} {a : α}
    (other : a ∉ separator) : a ∈ separator.intercalate parts ↔ ∃ part ∈ parts, a ∈ part := by
  constructor
  · intro member
    exact (of_mem_intercalate member).resolve_left other
  · rintro ⟨part, listed, inside⟩
    exact mem_intercalate_of_mem listed inside

theorem filter_intercalate {α : Type} (p : α → Bool) (separator : List α) (parts : List (List α)) :
    (separator.intercalate parts).filter p =
      (separator.filter p).intercalate (parts.map (List.filter p)) := by
  induction parts with
  | nil => rfl
  | cons first rest ih =>
    cases rest with
    | nil => simp
    | cons second rest =>
      rw [List.intercalate_cons_cons, List.filter_append, List.filter_append, ih]
      simp only [List.map_cons, List.intercalate_cons_cons]

section
variable {α : Type} [DecidableEq α] {a b : α} {items : List α}

theorem tail_splitOn_cons_self : ((a :: items).splitOn a).tail = items.splitOn a := by
  rw [List.splitOn_cons_eq_if_modifyHead, if_pos (beq_self_eq_true a)]
  rfl

theorem tail_splitOn_cons_of_ne (other : b ≠ a) :
    ((b :: items).splitOn a).tail = (items.splitOn a).tail := by
  obtain ⟨first, more, parts⟩ := List.exists_cons_of_ne_nil (List.splitOn_ne_nil a items)
  rw [List.splitOn_cons_eq_if_modifyHead, if_neg (by simpa using other), parts]
  rfl

theorem head?_splitOn_eq_nil_iff :
    (items.splitOn a).head? = some [] ↔ items = [] ∨ items.head? = some a := by
  cases items with
  | nil => simp
  | cons b rest =>
    obtain ⟨first, more, parts⟩ := List.exists_cons_of_ne_nil (List.splitOn_ne_nil a rest)
    rw [List.splitOn_cons_eq_if_modifyHead, parts]
    by_cases same : b = a <;> simp [same]

/-- No part contains the separator. -/
theorem not_mem_of_mem_splitOn {part : List α} (listed : part ∈ items.splitOn a) : a ∉ part := by
  induction items generalizing part with
  | nil =>
    obtain rfl : part = [] := by simpa using listed
    exact List.not_mem_nil
  | cons b rest ih =>
    rw [List.splitOn_cons_eq_if_modifyHead] at listed
    split at listed
    · rcases List.mem_cons.mp listed with rfl | later
      · exact List.not_mem_nil
      · exact ih later
    · rename_i other
      obtain ⟨first, more, parts⟩ := List.exists_cons_of_ne_nil (List.splitOn_ne_nil a rest)
      rw [parts] at listed ih
      rcases List.mem_cons.mp listed with rfl | later
      · have inside : a ∉ first := ih List.mem_cons_self
        have different : b ≠ a := by simpa using other
        exact List.not_mem_cons_of_ne_of_not_mem different.symm inside
      · exact ih (List.mem_cons_of_mem first later)

theorem nil_mem_splitOn :
    [] ∈ items.splitOn a ↔ (items.splitOn a).head? = some [] ∨ [] ∈ (items.splitOn a).tail := by
  obtain ⟨first, more, parts⟩ := List.exists_cons_of_ne_nil (List.splitOn_ne_nil a items)
  rw [parts, List.mem_cons, List.head?_cons, Option.some_inj, List.tail_cons, eq_comm]

/-- After the first part, an empty one comes of a separator at the end or of two in a row. -/
theorem nil_mem_tail_splitOn_iff :
    [] ∈ (items.splitOn a).tail ↔ items.getLast? = some a ∨ [a, a] <:+: items := by
  induction items with
  | nil => simp
  | cons b rest ih =>
    have last : (b :: rest).getLast? = some a ↔ rest = [] ∧ b = a ∨ rest.getLast? = some a := by
      cases rest <;> simp [List.getLast?_cons_cons]
    have next : [a] <+: rest ↔ rest.head? = some a := by
      cases rest <;> simp [List.cons_prefix_cons, eq_comm]
    rw [last, List.infix_cons_iff, List.cons_prefix_cons, next]
    by_cases same : b = a
    · rw [same, tail_splitOn_cons_self, nil_mem_splitOn, head?_splitOn_eq_nil_iff, ih]
      grind
    · rw [tail_splitOn_cons_of_ne same, ih]
      grind

theorem nil_mem_splitOn_iff (filled : items ≠ []) :
    [] ∈ items.splitOn a ↔
      items.head? = some a ∨ items.getLast? = some a ∨ [a, a] <:+: items := by
  rw [nil_mem_splitOn, head?_splitOn_eq_nil_iff, nil_mem_tail_splitOn_iff, or_iff_right filled]

end
end EntityCrud
