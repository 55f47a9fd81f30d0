/-
Where paths lead, by their spelling.

A path is walked segment by segment, so a path that is joined to another leads on from where that one leads
(`Path.locate_join`). The directory of a path is the path without its last segment that is not idle, so it leads to the
place from which that segment is stepped (`Path.locate_directory`, `Path.locate_directory_join`). Where that segment is
a name, the place is the one around the place of the path (`Path.locate_of_fileName?`); where it is a double dot, it is
not.
-/
import Mathlib.Data.List.DropRight
import GlslInspect.Proofs.Paths
import GlslInspect.Proofs.Text

namespace GlslInspect

namespace Path

open PathUnit

variable {α : Type} [DecidableEq α] [PathUnit α] {cwd place : List (List α)} {base path : List α}
  {parts : List (List α)}

/-! ## Segments that are walked -/

theorem segments_nil : segments ([] : List α) = [[]] := rfl

theorem segments_slash_cons (rest : List α) : segments (slash :: rest) = [] :: segments rest := if_pos rfl

omit [DecidableEq α] in
theorem slash_not_mem_dot : (slash : α) ∉ [dot] := by simpa using slash_ne_dot

theorem segments_dot : segments [(dot : α)] = [[dot]] := Text.splitOn_of_not_mem slash_not_mem_dot

theorem segments_dot_slash_cons (rest : List α) : segments (dot :: slash :: rest) = [dot] :: segments rest :=
  Text.splitOn_append_cons (a := [dot]) rest slash_not_mem_dot

theorem isIdle_nil : isIdle ([] : List α) = true := by simp [isIdle]

theorem isIdle_dot : isIdle [(dot : α)] = true := by simp [isIdle]

theorem step_nil (place : List (List α)) : step place [] = place := if_pos isIdle_nil

theorem walk_append (place first rest : List (List α)) :
    walk place (first ++ rest) = walk (walk place first) rest :=
  List.foldl_append

theorem walk_of_idle (h : ∀ segment ∈ parts, isIdle segment = true) : walk place parts = place := by
  induction parts with
  | nil => rfl
  | cons segment rest ih =>
    have hstep : step place segment = place := if_pos (h segment List.mem_cons_self)
    change walk (step place segment) rest = place
    rw [hstep]
    exact ih fun other hother => h other (List.mem_cons_of_mem segment hother)

/-- a segment that leads one name down: it is not idle, goes not up, and is one segment only -/
structure IsPlain (segment : List α) : Prop where
  idle : isIdle segment = false
  dots : segment ≠ [dot, dot]
  slash : slash ∉ segment

theorem step_of_isPlain {segment : List α} (h : IsPlain segment) (place : List (List α)) :
    step place segment = place ++ [segment] := by
  rw [step, if_neg (Bool.eq_false_iff.1 h.idle), if_neg h.dots]

theorem walk_of_isPlain (h : ∀ segment ∈ parts, IsPlain segment) : walk place parts = place ++ parts := by
  induction parts generalizing place with
  | nil => exact (List.append_nil place).symm
  | cons segment rest ih =>
    have hrest : ∀ other ∈ rest, IsPlain other := fun other hother => h other (List.mem_cons_of_mem segment hother)
    change walk (step place segment) rest = _
    rw [step_of_isPlain (h segment List.mem_cons_self), ih hrest, List.append_assoc]
    rfl

theorem exists_idle (parts : List (List α)) :
    ∃ idle, parts = dropIdle parts ++ idle ∧ ∀ segment ∈ idle, isIdle segment = true :=
  ⟨parts.rtakeWhile isIdle, (List.rdropWhile_append_rtakeWhile ..).symm, fun _ => List.mem_rtakeWhile_imp⟩

theorem walk_dropIdle (place parts : List (List α)) : walk place (dropIdle parts) = walk place parts := by
  obtain ⟨idle, hparts, hidle⟩ := exists_idle parts
  conv_rhs => rw [hparts, walk_append, walk_of_idle hidle]

theorem dropIdle_append {rest : List (List α)} (first : List (List α)) (h : dropIdle rest ≠ []) :
    dropIdle (first ++ rest) = first ++ dropIdle rest := by
  unfold dropIdle at h ⊢
  rw [List.reverse_append, List.dropWhile_append]
  split
  · rename_i hempty
    exact absurd (by rw [List.isEmpty_iff.1 hempty]; rfl) h
  · simp

theorem dropIdle_cons_of_idle {segment : List α} {rest : List (List α)} (hsegment : isIdle segment = true)
    (h : dropIdle rest = []) : dropIdle (segment :: rest) = [] := by
  refine List.rdropWhile_eq_nil_iff.2 fun other hother => ?_
  rcases List.mem_cons.1 hother with rfl | hother
  · exact hsegment
  · exact List.rdropWhile_eq_nil_iff.1 h other hother

/-- the segments of a path that is written from segments are these again, or idle -/
theorem walk_segments_join (h : ∀ segment ∈ parts, slash ∉ segment) :
    walk place (segments (Text.join [slash] parts)) = walk place parts := by
  induction parts using Text.join.induct generalizing place with
  | case1 => rfl
  | case2 segment =>
    have hslash : slash ∉ segment := h segment (List.mem_singleton_self segment)
    rw [Text.join, segments, Text.splitOn_of_not_mem hslash]
  | case3 segment next rest ih =>
    have hslash : slash ∉ segment := h segment List.mem_cons_self
    have hsplit : segments (Text.join [slash] (segment :: next :: rest)) =
        segment :: segments (Text.join [slash] (next :: rest)) := by
      rw [Text.join_cons_cons]
      exact Text.splitOn_append_cons _ hslash
    rw [hsplit]
    exact ih fun other hother => h other (List.mem_cons_of_mem segment hother)

/-- a path is one segment, or goes on behind its first slash -/
theorem segments_cases (path : List α) : segments path = [path] ∨
    ∃ first rest, path = first ++ slash :: rest ∧ segments path = first :: segments rest := by
  by_cases hslash : slash ∈ path
  · obtain ⟨first, rest, rfl, hfirst⟩ := List.eq_append_cons_of_mem hslash
    exact Or.inr ⟨first, rest, rfl, Text.splitOn_append_cons rest hfirst⟩
  · exact Or.inl (Text.splitOn_of_not_mem hslash)

/-- the first segments of a path are the beginning of it -/
theorem join_isPrefix (h : parts <+: segments path) : Text.join [slash] parts <+: path := by
  induction parts using Text.join.induct generalizing path with
  | case1 => exact List.nil_prefix
  | case2 segment =>
    rcases segments_cases path with hsegments | ⟨first, rest, rfl, hsegments⟩
    · rw [hsegments, List.cons_prefix_cons] at h
      exact ⟨[], (List.append_nil segment).trans h.1⟩
    · rw [hsegments, List.cons_prefix_cons] at h
      rw [Text.join, h.1]
      exact List.prefix_append first _
  | case3 segment next parts ih =>
    rcases segments_cases path with hsegments | ⟨first, rest, rfl, hsegments⟩
    · rw [hsegments, List.cons_prefix_cons] at h
      exact absurd (List.prefix_nil.1 h.2) (by simp)
    · rw [hsegments, List.cons_prefix_cons] at h
      rw [Text.join_cons_cons, h.1]
      exact (List.prefix_append_right_inj first).2 ((List.prefix_append_right_inj [slash]).2 (ih h.2))

/-! ## Joined paths -/

theorem join_of_isAbsolute (base : List α) (h : isAbsolute path = true) : join base path = path := by
  simp [join, h]

theorem isAbsolute_join (h : isAbsolute path = false) : isAbsolute (join base path) = isAbsolute base := by
  unfold join
  rw [h, Bool.false_or]
  cases base with
  | nil => exact h
  | cons c rest =>
    rw [List.isEmpty_cons, if_neg Bool.false_ne_true]
    split_ifs
    · rw [List.cons_append, isAbsolute_cons, isAbsolute_cons]
    · rw [List.cons_append, isAbsolute_cons, isAbsolute_cons]

/-- a relative path goes on behind the segments of the path that it is joined to -/
theorem exists_segments_join (base : List α) (h : isAbsolute path = false) :
    ∃ front, segments (join base path) = front ++ segments path ∧
      ∀ place, walk place front = walk place (segments base) := by
  unfold join
  rw [h, Bool.false_or]
  split_ifs with hempty hslash
  · obtain rfl := List.isEmpty_iff.1 hempty
    exact ⟨[], rfl, fun _ => rfl⟩
  · obtain ⟨before, rfl⟩ := List.getLast?_eq_some_iff.1 hslash
    refine ⟨segments before, ?_, fun place => ?_⟩
    · rw [List.append_assoc]
      exact Text.splitOn_append before path
    · have hsplit : segments (before ++ [slash]) = segments before ++ segments [] := Text.splitOn_append before []
      rw [hsplit, walk_append]
      exact (step_nil _).symm
  · exact ⟨segments base, Text.splitOn_append base path, fun _ => rfl⟩

theorem locate_join (cwd : List (List α)) (base path : List α) :
    locate cwd (join base path) = locate (locate cwd base) path := by
  cases habsolute : isAbsolute path with
  | true =>
    rw [join_of_isAbsolute base habsolute]
    unfold locate
    rw [habsolute]
    rfl
  | false =>
    obtain ⟨front, hsegments, hfront⟩ := exists_segments_join base habsolute
    unfold locate
    rw [isAbsolute_join habsolute, hsegments, walk_append, hfront, habsolute]
    rfl

/-! ## Directories -/

theorem slash_not_mem_body : ∀ segment ∈ body path, slash ∉ segment :=
  fun _ hsegment => Text.not_mem_of_mem_splitOn (mem_of_mem_dropIdle hsegment)

/-- behind what a path stands on, its body has the segments of the path, up to the last that is not idle -/
theorem exists_body (h : dropIdle (segments path) ≠ []) :
    ∃ front start rest, dropIdle (segments path) = front ++ rest ∧ body path = start ++ rest ∧ rest ≠ [] ∧
      (∀ segment ∈ front, isIdle segment = true) ∧ ∀ segment ∈ start, isIdle segment = true := by
  have hnil : ∀ segment ∈ [([] : List α)], isIdle segment = true := List.forall_mem_singleton.2 isIdle_nil
  have hdot : ∀ segment ∈ [[(dot : α)]], isIdle segment = true := List.forall_mem_singleton.2 isIdle_dot
  rcases anchor_shape path with ⟨rest, rfl, hanchor⟩ | ⟨rfl, -⟩ | ⟨rest, rfl, hanchor⟩ | ⟨-, hanchor⟩
  · have hsegments : segments (slash :: rest) = [[]] ++ segments rest := segments_slash_cons rest
    rw [hsegments] at h ⊢
    have hrest : dropIdle (segments rest) ≠ [] := fun heq => h (dropIdle_cons_of_idle isIdle_nil heq)
    rw [body, hanchor, dropIdle_append _ hrest]
    exact ⟨[[]], [], _, rfl, rfl, hrest, hnil, nofun⟩
  · rw [segments_dot] at h
    exact absurd (dropIdle_cons_of_idle isIdle_dot rfl) h
  · have hsegments : segments (dot :: slash :: rest) = [[dot]] ++ segments rest := segments_dot_slash_cons rest
    have hbody : segments (slash :: rest) = [[]] ++ segments rest := segments_slash_cons rest
    rw [hsegments] at h ⊢
    have hrest : dropIdle (segments rest) ≠ [] := fun heq => h (dropIdle_cons_of_idle isIdle_dot heq)
    rw [body, hanchor, hbody, dropIdle_append _ hrest, dropIdle_append _ hrest]
    exact ⟨[[dot]], [[]], _, rfl, rfl, hrest, hdot, hnil⟩
  · rw [body, hanchor]
    exact ⟨[], [], _, rfl, rfl, h, nofun, nofun⟩

theorem body_eq_nil (h : dropIdle (segments path) = []) : body path = [] := by
  have hidle : ∀ segment ∈ segments path, isIdle segment = true := List.rdropWhile_eq_nil_iff.1 h
  rcases anchor_shape path with ⟨rest, rfl, hanchor⟩ | ⟨-, hanchor⟩ | ⟨rest, rfl, hanchor⟩ | ⟨-, hanchor⟩
  · rw [segments_slash_cons] at hidle
    rw [body, hanchor]
    exact List.rdropWhile_eq_nil_iff.2 fun segment hsegment => hidle segment (List.mem_cons_of_mem _ hsegment)
  · rw [body, hanchor]
    exact dropIdle_cons_of_idle isIdle_nil rfl
  · rw [segments_dot_slash_cons] at hidle
    rw [body, hanchor]
    change dropIdle (segments (slash :: rest)) = []
    rw [segments_slash_cons]
    refine dropIdle_cons_of_idle isIdle_nil (List.rdropWhile_eq_nil_iff.2 ?_)
    exact fun segment hsegment => hidle segment (List.mem_cons_of_mem _ hsegment)
  · rw [body, hanchor]
    exact h

/-- the body of a path without its last segment is the beginning of what the path goes on with -/
theorem join_dropLast_isPrefix (path : List α) :
    Text.join [slash] (dropIdle (body path).dropLast) <+: (anchor path).2 :=
  join_isPrefix ((List.rdropWhile_prefix ..).trans ((List.dropLast_prefix _).trans (List.rdropWhile_prefix ..)))

theorem directory_of_body (h : body path ≠ []) :
    directory path = (anchor path).1 ++ Text.join [slash] (dropIdle (body path).dropLast) := by
  unfold directory parent?
  split
  · rename_i hbody
    exact absurd hbody h
  · rfl

/-- the directory of a path starts where the path does, and is walked as the body of the path, but for its end -/
theorem walk_directory (h : body path ≠ []) :
    isAbsolute (directory path) = isAbsolute path ∧
      ∀ place, walk place (segments (directory path)) = walk place (body path).dropLast := by
  have hslash : ∀ segment ∈ dropIdle (body path).dropLast, slash ∉ segment :=
    fun segment hsegment => slash_not_mem_body segment (List.dropLast_subset _ (mem_of_mem_dropIdle hsegment))
  have hwalk : ∀ place, walk place (segments (Text.join [slash] (dropIdle (body path).dropLast))) =
      walk place (body path).dropLast := fun place => by rw [walk_segments_join hslash, walk_dropIdle]
  have hprefix := join_dropLast_isPrefix path
  rw [directory_of_body h]
  rcases anchor_shape path with ⟨rest, rfl, hanchor⟩ | ⟨rfl, hanchor⟩ | ⟨rest, rfl, hanchor⟩ | ⟨hrelative, hanchor⟩
  · rw [hanchor, List.singleton_append, isAbsolute_cons, isAbsolute_cons, segments_slash_cons]
    exact ⟨rfl, fun place => by rw [← hwalk, walk, List.foldl_cons, step_nil, walk]⟩
  · refine absurd ?_ h
    rw [body, hanchor]
    exact dropIdle_cons_of_idle isIdle_nil rfl
  · -- a dot in front of what is empty or starts with a slash is one more idle segment
    have hdotted : ∀ t : List α, t <+: slash :: rest →
        ∀ place, walk place (segments (dot :: t)) = walk place (segments t) := by
      intro t ht place
      cases t with
      | nil =>
        rw [segments_dot, segments_nil, walk_of_idle (List.forall_mem_singleton.2 isIdle_dot),
          walk_of_idle (List.forall_mem_singleton.2 isIdle_nil)]
      | cons c t =>
        obtain rfl := (List.cons_prefix_cons.1 ht).1
        rw [segments_dot_slash_cons, segments_slash_cons, walk, List.foldl_cons, walk, List.foldl_cons, step_nil]
        exact congrArg (List.foldl step · _) (if_pos isIdle_dot)
    rw [hanchor] at hprefix ⊢
    rw [List.singleton_append, isAbsolute_cons, isAbsolute_cons]
    exact ⟨rfl, fun place => (hdotted _ hprefix place).trans (hwalk place)⟩
  · rw [hanchor] at hprefix ⊢
    refine ⟨?_, hwalk⟩
    rw [hrelative, List.nil_append]
    cases hstart : Text.join [slash] (dropIdle (body path).dropLast) with
    | nil => exact isAbsolute_nil
    | cons c rest =>
      rw [hstart] at hprefix
      obtain ⟨more, rfl⟩ := hprefix
      rw [List.cons_append, isAbsolute_cons] at hrelative
      rw [isAbsolute_cons, hrelative]

/-- the directory of a path leads to the place from which the last segment of the path is stepped -/
theorem locate_directory (cwd : List (List α)) (h : dropIdle (segments path) ≠ []) :
    locate cwd (directory path) = walk (if isAbsolute path then [] else cwd) (dropIdle (segments path)).dropLast := by
  obtain ⟨front, start, rest, hsegments, hbody, hrest, hfront, hstart⟩ := exists_body h
  have hne : body path ≠ [] := by rw [hbody]; exact List.append_ne_nil_of_right_ne_nil start hrest
  obtain ⟨habsolute, hwalk⟩ := walk_directory hne
  rw [locate, habsolute, hwalk, hbody, hsegments, List.dropLast_append_of_ne_nil hrest,
    List.dropLast_append_of_ne_nil hrest, walk_append, walk_append, walk_of_idle hfront, walk_of_idle hstart]

/-- what a path says last is said last behind any other -/
theorem exists_dropIdle_join (base : List α) (habsolute : isAbsolute path = false) (h : dropIdle (segments path) ≠ []) :
    ∃ front, dropIdle (segments (join base path)) = front ++ dropIdle (segments path) ∧
      ∀ place, walk place front = walk place (segments base) := by
  obtain ⟨front, hsegments, hfront⟩ := exists_segments_join base habsolute
  exact ⟨front, by rw [hsegments, dropIdle_append front h], hfront⟩

theorem dropIdle_join_ne_nil (base : List α) (h : dropIdle (segments path) ≠ []) :
    dropIdle (segments (join base path)) ≠ [] := by
  cases habsolute : isAbsolute path with
  | true => rwa [join_of_isAbsolute base habsolute]
  | false =>
    obtain ⟨front, hjoined, -⟩ := exists_dropIdle_join base habsolute h
    rw [hjoined]
    exact List.append_ne_nil_of_right_ne_nil front h

theorem locate_directory_join (cwd : List (List α)) (base : List α) (h : dropIdle (segments path) ≠ []) :
    locate cwd (directory (join base path)) =
      walk (if isAbsolute path then [] else locate cwd base) (dropIdle (segments path)).dropLast := by
  rw [locate_directory cwd (dropIdle_join_ne_nil base h)]
  cases habsolute : isAbsolute path with
  | true =>
    rw [join_of_isAbsolute base habsolute, habsolute]
    rfl
  | false =>
    obtain ⟨front, hjoined, hfront⟩ := exists_dropIdle_join base habsolute h
    rw [hjoined, List.dropLast_append_of_ne_nil h, walk_append, hfront, isAbsolute_join habsolute]
    rfl

theorem locate_eq_step (cwd : List (List α)) (h : dropIdle (segments path) ≠ []) :
    locate cwd path = step (locate cwd (directory path)) ((dropIdle (segments path)).getLast h) := by
  rw [locate_directory cwd h, locate, ← walk_dropIdle]
  conv_lhs => rw [← List.dropLast_concat_getLast h, walk_append]
  rfl

theorem locate_of_fileName? (cwd : List (List α)) {name : List α} (h : fileName? path = some name) :
    dropIdle (segments path) ≠ [] ∧ locate cwd path = locate cwd (directory path) ++ [name] := by
  obtain ⟨hlast, hdots⟩ : (body path).getLast? = some name ∧ name ≠ [dot, dot] := by
    unfold fileName? at h
    split at h
    · split_ifs at h with hdots
      cases h
      exact ⟨by assumption, hdots⟩
    · cases h
  have hne : dropIdle (segments path) ≠ [] := by
    intro hnil
    rw [body_eq_nil hnil] at hlast
    cases hlast
  obtain ⟨front, start, rest, hsegments, hbody, hrest, -, -⟩ := exists_body hne
  have hname : (dropIdle (segments path)).getLast hne = name := by
    rw [hbody, List.getLast?_append_of_ne_nil _ hrest, List.getLast?_eq_some_getLast hrest] at hlast
    simp only [hsegments, List.getLast_append_of_ne_nil _ hrest]
    exact Option.some.inj hlast
  have hidle : ¬ isIdle name = true := hname ▸ List.rdropWhile_last_not isIdle _ hne
  refine ⟨hne, ?_⟩
  rw [locate_eq_step cwd hne, hname, step, if_neg hidle, if_neg hdots]

end Path

end GlslInspect
