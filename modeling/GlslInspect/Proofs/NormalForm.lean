/-
The normal form of a path.

A path is brought to its normal form in a buffer, to which names are pushed and from which the last component is taken
off again. What stands in the buffer is always the absolute path of a stack of names (`Path.append_rooted`), so what is
left at the end is the path of the place that the segments lead to from the root (`Path.normalize_of_isAbsolute`).
Names on the stack are plain, so the place can be read back from its path (`Path.locate_rooted`): the path tells the
stack, and a normal form leads to itself.
-/
import GlslInspect.Proofs.Segments

namespace GlslInspect

namespace Path

open PathUnit

variable {α : Type} [DecidableEq α] [PathUnit α] {cwd names : List (List α)} {path : List α} {parts : List (List α)}

/-! ## Names on a stack -/

theorem isPlain_of_mem_walk (hnames : ∀ name ∈ names, IsPlain name) (hparts : ∀ segment ∈ parts, slash ∉ segment) :
    ∀ name ∈ walk names parts, IsPlain name := by
  induction parts generalizing names with
  | nil => exact hnames
  | cons segment rest ih =>
    have hrest : ∀ other ∈ rest, slash ∉ other := fun other hother => hparts other (List.mem_cons_of_mem segment hother)
    refine ih ?_ hrest
    unfold step
    split_ifs with hidle hdots
    · exact hnames
    · exact fun name hname => hnames name (List.dropLast_subset names hname)
    · intro name hname
      rcases List.mem_append.1 hname with hname | hname
      · exact hnames name hname
      · rw [List.mem_singleton.1 hname]
        exact ⟨Bool.eq_false_iff.2 hidle, hdots, hparts segment List.mem_cons_self⟩

theorem slash_not_mem_segments : ∀ segment ∈ segments path, slash ∉ segment :=
  fun _ hsegment => Text.not_mem_of_mem_splitOn hsegment

theorem isPlain_of_mem_locate (hcwd : ∀ name ∈ cwd, IsPlain name) (path : List α) :
    ∀ name ∈ locate cwd path, IsPlain name := by
  refine isPlain_of_mem_walk ?_ slash_not_mem_segments
  split_ifs
  · exact List.forall_mem_nil _
  · exact hcwd

theorem isAbsolute_rooted (names : List (List α)) : isAbsolute (rooted names) = true := by
  rw [rooted, isAbsolute_cons, decide_eq_true rfl]

/-- the path of a place leads there from anywhere -/
theorem locate_rooted (h : ∀ name ∈ names, IsPlain name) (cwd : List (List α)) : locate cwd (rooted names) = names := by
  rw [locate, if_pos (isAbsolute_rooted names), rooted, segments_slash_cons, walk, List.foldl_cons, step_nil]
  change walk [] (segments (Text.join [slash] names)) = names
  rw [walk_segments_join fun name hname => (h name hname).slash, walk_of_isPlain h, List.nil_append]

theorem rooted_inj {other : List (List α)} (h : ∀ name ∈ names, IsPlain name) (h' : ∀ name ∈ other, IsPlain name)
    (hsame : rooted names = rooted other) : names = other := by
  rw [← locate_rooted h [], hsame, locate_rooted h' []]

/-! ## The buffer -/

theorem segments_join_names (hne : names ≠ []) (h : ∀ name ∈ names, IsPlain name) :
    segments (Text.join [slash] names) = names := by
  rw [segments, Text.splitOn_join hne, Text.flatMap_splitOn fun name hname => (h name hname).slash]

theorem dropIdle_names (h : ∀ name ∈ names, IsPlain name) : dropIdle names = names := by
  refine List.rdropWhile_eq_self_iff.2 fun hne => ?_
  rw [(h _ (List.getLast_mem hne)).idle]
  exact Bool.false_ne_true

theorem parent?_rooted (h : ∀ name ∈ names, IsPlain name) :
    parent? (rooted names) = if names = [] then none else some (rooted names.dropLast) := by
  have hdot : ([slash] : List α) ≠ [dot] := by simpa using slash_ne_dot
  unfold parent? body
  rw [rooted, anchor_slash_cons]
  by_cases hne : names = []
  · subst hne
    have hbody : dropIdle (segments (Text.join [slash] ([] : List (List α)))) = [] :=
      dropIdle_cons_of_idle isIdle_nil rfl
    rw [hbody]
    dsimp only
    rw [if_neg hdot, if_pos rfl]
  · obtain ⟨first, rest, rfl⟩ := List.exists_cons_of_ne_nil hne
    have hlast : ∀ name ∈ (first :: rest).dropLast, IsPlain name :=
      fun name hname => h name (List.dropLast_subset _ hname)
    rw [segments_join_names hne h, dropIdle_names h, if_neg hne]
    dsimp only
    rw [dropIdle_names hlast]
    rfl

/-- taking off the last component goes up, and stays at the root -/
theorem pop_rooted (h : ∀ name ∈ names, IsPlain name) : pop (rooted names) = rooted names.dropLast := by
  rw [pop, parent?_rooted h]
  split_ifs with hnil
  · rw [hnil]
    rfl
  · rfl

theorem directory_rooted (h : ∀ name ∈ names, IsPlain name) (hne : names ≠ []) :
    directory (rooted names) = rooted names.dropLast := by
  rw [directory, parent?_rooted h, if_neg hne]
  rfl

theorem IsPlain.ne_nil {name : List α} (h : IsPlain name) : name ≠ [] := by
  rintro rfl
  exact absurd (isIdle_nil (α := α)) (Bool.eq_false_iff.1 h.idle)

theorem IsPlain.isAbsolute {name : List α} (h : IsPlain name) : isAbsolute name = false := by
  obtain ⟨c, rest, rfl⟩ := List.exists_cons_of_ne_nil h.ne_nil
  rw [isAbsolute_cons]
  exact decide_eq_false fun heq => h.slash (heq ▸ List.mem_cons_self)

theorem getLast?_rooted (hne : names ≠ []) (h : ∀ name ∈ names, IsPlain name) :
    (rooted names).getLast? ≠ some slash := by
  obtain ⟨before, last, rfl⟩ := (List.eq_nil_or_concat' names).resolve_left hne
  have hlast := h last (by simp)
  have hend : ∃ front, rooted (before ++ [last]) = front ++ last := by
    by_cases hbefore : before = []
    · subst hbefore
      exact ⟨[slash], rfl⟩
    · refine ⟨slash :: (Text.join [slash] before ++ [slash]), ?_⟩
      rw [rooted, Text.join_concat hbefore, List.cons_append]
  obtain ⟨front, hfront⟩ := hend
  rw [hfront, List.getLast?_append_of_ne_nil front hlast.ne_nil]
  exact fun heq => hlast.slash (List.mem_of_getLast? heq)

/-- pushing a name goes down by it -/
theorem join_rooted {name : List α} (h : ∀ name ∈ names, IsPlain name) (hname : IsPlain name) :
    join (rooted names) name = rooted (names ++ [name]) := by
  unfold join
  rw [hname.isAbsolute, Bool.false_or]
  have hnonempty : (rooted names).isEmpty = false := rfl
  rw [hnonempty, if_neg Bool.false_ne_true]
  by_cases hne : names = []
  · subst hne
    exact if_pos rfl
  · rw [if_neg (getLast?_rooted hne h), rooted, rooted, Text.join_concat hne]
    simp

/-- what a segment does to the buffer, it does to the stack -/
theorem append_rooted (h : ∀ name ∈ names, IsPlain name) {segment : List α} (hslash : slash ∉ segment) :
    ((component? segment).toList.foldl append (rooted names)) = rooted (step names segment) := by
  unfold component? step
  split_ifs with hidle hdots
  · rfl
  · exact pop_rooted h
  · exact join_rooted h ⟨Bool.eq_false_iff.2 hidle, hdots, hslash⟩

theorem foldl_append_rooted (hnames : ∀ name ∈ names, IsPlain name) (hparts : ∀ segment ∈ parts, slash ∉ segment) :
    (parts.filterMap component?).foldl append (rooted names) = rooted (walk names parts) := by
  induction parts generalizing names with
  | nil => rfl
  | cons segment rest ih =>
    have hsegment : slash ∉ segment := hparts segment List.mem_cons_self
    have hrest : ∀ other ∈ rest, slash ∉ other := fun other hother => hparts other (List.mem_cons_of_mem segment hother)
    have hplain : ∀ name ∈ step names segment, IsPlain name :=
      isPlain_of_mem_walk hnames (List.forall_mem_singleton.2 hsegment)
    have hcons : (segment :: rest).filterMap component? = (component? segment).toList ++ rest.filterMap component? := by
      rw [List.filterMap_cons]
      cases component? segment <;> rfl
    rw [hcons, List.foldl_append, append_rooted hnames hsegment, ih hplain hrest]
    rfl

/-- the normal form of an absolute path is the path of the place that it leads to -/
theorem normalize_of_isAbsolute (h : isAbsolute path = true) : normalize path = rooted (locate [] path) := by
  have hroot : join [] [(slash : α)] = rooted [] := by simp [join, rooted, Text.join]
  have hcomponents : components path = .root :: (segments path).filterMap component? := if_pos h
  rw [normalize, hcomponents, List.foldl_cons, append, hroot,
    foldl_append_rooted (List.forall_mem_nil _) slash_not_mem_segments, locate, if_pos h]

theorem normalize_join {here : List α} (hhere : isAbsolute here = true) (path : List α) :
    normalize (join here path) = rooted (locate (locate [] here) path) := by
  have habsolute : isAbsolute (join here path) = true := by
    cases hpath : isAbsolute path with
    | true => rw [join_of_isAbsolute here hpath, hpath]
    | false => rw [isAbsolute_join hpath, hhere]
  rw [normalize_of_isAbsolute habsolute, locate_join]

theorem isPlain_of_mem_locate_locate (here path : List α) :
    ∀ name ∈ locate (locate [] here) path, IsPlain name :=
  isPlain_of_mem_locate (isPlain_of_mem_locate (List.forall_mem_nil _) here) path

end Path

end GlslInspect
