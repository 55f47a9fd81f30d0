/-
Paths that are shown, and paths that are written.

What is shown of the bytes of a path is shown piece by piece, and so is a text written as bytes: slashes stay, none are
made, and what is nothing, a dot or a double dot stays that (`Path.Piecewise`). Nothing else is read off a path, so
everything that is done to paths can be done before or after: cutting them, joining them, taking the last component off,
bringing them to their normal form (`Path.Piecewise.map_normalize`). So an include path has the meaning in a file tree,
where names are texts, that is shown of its meaning where paths are bytes (`resolveBytes_shown`).
-/
import GlslInspect.Proofs.Location
import GlslInspect.Proofs.Utf8

namespace GlslInspect

namespace Path

open PathUnit

variable {α β : Type} [DecidableEq α] [PathUnit α] [DecidableEq β] [PathUnit β] {f : List α → List β}

/-- a map of paths that works piece by piece -/
structure Piecewise (f : List α → List β) : Prop where
  cut : ∀ front rest, f (front ++ slash :: rest) = f front ++ slash :: f rest
  slash_mem : ∀ path, slash ∈ f path → slash ∈ path
  nil_iff : ∀ path, f path = [] ↔ path = []
  dot_iff : ∀ path, f path = [dot] ↔ path = [dot]
  dots_iff : ∀ path, f path = [dot, dot] ↔ path = [dot, dot]

theorem join_segments (path : List α) : Text.join [slash] (segments path) = path := by
  induction path with
  | nil => rfl
  | cons c rest ih =>
    obtain ⟨first, others, hsegments⟩ := List.exists_cons_of_ne_nil (Text.splitOn_ne_nil slash rest)
    have hrest : Text.join [slash] (first :: others) = rest := hsegments ▸ ih
    by_cases hc : c = slash
    · have hcons : segments (c :: rest) = [] :: first :: others := by rw [segments, Text.splitOn, if_pos hc, hsegments]
      rw [hcons, Text.join, hrest, hc]
      rfl
    · have hcons : segments (c :: rest) = (c :: first) :: others := by
        rw [segments, Text.splitOn, if_neg hc, hsegments, Text.consHead]
      rw [hcons, ← hrest]
      cases others <;> rfl

namespace Component

/-- the same component of another path -/
def map (f : List α → List β) : Component α → Component β
  | .root => .root
  | .current => .current
  | .parent => .parent
  | .normal name => .normal (f name)

end Component

namespace Piecewise

variable (hf : Piecewise f) {path : List α}

include hf

omit [DecidableEq α] [DecidableEq β] in
theorem map_nil : f [] = [] := (hf.nil_iff []).2 rfl

omit [DecidableEq α] [DecidableEq β] in
theorem map_dot : f [dot] = [dot] := (hf.dot_iff [dot]).2 rfl

omit [DecidableEq α] [DecidableEq β] in
theorem map_slash_cons (rest : List α) : f (slash :: rest) = slash :: f rest := by
  rw [← List.nil_append (slash :: rest), hf.cut, hf.map_nil, List.nil_append]

omit [DecidableEq α] [DecidableEq β] in
theorem map_join_slash (parts : List (List α)) : f (Text.join [slash] parts) = Text.join [slash] (parts.map f) := by
  induction parts using Text.join.induct with
  | case1 => exact hf.map_nil
  | case2 part => rfl
  | case3 part next rest ih =>
    rw [Text.join_cons_cons, hf.cut, ih]
    exact (Text.join_cons_cons slash _ _ _).symm

/-- the pieces of the image are the images of the pieces -/
theorem map_segments (path : List α) : segments (f path) = (segments path).map f := by
  have hne : (segments path).map f ≠ [] := fun h => Text.splitOn_ne_nil _ path (List.map_eq_nil_iff.1 h)
  have hslash : ∀ part ∈ (segments path).map f, slash ∉ part := by
    intro part hpart
    obtain ⟨segment, hsegment, rfl⟩ := List.mem_map.1 hpart
    exact fun hmem => slash_not_mem_segments segment hsegment (hf.slash_mem segment hmem)
  calc segments (f path) = segments (f (Text.join [slash] (segments path))) := by rw [join_segments]
    _ = segments (Text.join [slash] ((segments path).map f)) := by rw [hf.map_join_slash]
    _ = ((segments path).map f).flatMap segments := Text.splitOn_join hne
    _ = (segments path).map f := Text.flatMap_splitOn hslash

omit [DecidableEq α] in
/-- where the image has its first slash, the path has one -/
theorem exists_cut {start more : List β} (h : f path = start ++ slash :: more) (hstart : slash ∉ start) :
    ∃ front back, path = front ++ slash :: back ∧ f front = start ∧ f back = more := by
  have hmem : slash ∈ path := hf.slash_mem path (by rw [h]; exact List.mem_append_right _ List.mem_cons_self)
  obtain ⟨front, back, rfl, hfront⟩ := List.eq_append_cons_of_mem hmem
  rw [hf.cut] at h
  have hsegments : segments (f front ++ slash :: f back) = segments (start ++ slash :: more) := by rw [h]
  have hboth : f front :: segments (f back) = start :: segments more := by
    rwa [segments, segments, Text.splitOn_append_cons _ fun hslash => hfront (hf.slash_mem front hslash),
      Text.splitOn_append_cons _ hstart] at hsegments
  obtain ⟨rfl, -⟩ := List.cons.inj hboth
  exact ⟨front, back, rfl, rfl, (List.cons.inj (List.append_cancel_left h)).2⟩

theorem map_isAbsolute (path : List α) : isAbsolute (f path) = isAbsolute path := by
  rw [Bool.eq_iff_iff, isAbsolute, isAbsolute, decide_eq_true_iff, decide_eq_true_iff, List.head?_eq_some_iff,
    List.head?_eq_some_iff]
  constructor
  · rintro ⟨more, hmore⟩
    have hcut : f path = [] ++ slash :: more := hmore
    obtain ⟨front, back, rfl, hfront, -⟩ := hf.exists_cut hcut List.not_mem_nil
    obtain rfl := (hf.nil_iff front).1 hfront
    exact ⟨back, rfl⟩
  · rintro ⟨rest, rfl⟩
    exact ⟨f rest, hf.map_slash_cons rest⟩

theorem map_isIdle (segment : List α) : isIdle (f segment) = isIdle segment := by
  simp only [isIdle, hf.nil_iff, hf.dot_iff]

/-! ## Walking -/

/-- what a path stands on is kept -/
theorem map_anchor (path : List α) : anchor (f path) = (f (anchor path).1, f (anchor path).2) := by
  rcases anchor_shape path with ⟨rest, rfl, hanchor⟩ | ⟨rfl, hanchor⟩ | ⟨rest, rfl, hanchor⟩ | ⟨hrelative, hanchor⟩
  · rw [hanchor, hf.map_slash_cons, hf.map_slash_cons, hf.map_nil, anchor_slash_cons]
  · rw [hanchor, hf.map_dot, hf.map_nil, anchor_dot]
  · have hcut : f (dot :: slash :: rest) = f [dot] ++ slash :: f rest := hf.cut [dot] rest
    rw [hanchor, hcut, hf.map_dot, hf.map_slash_cons, List.singleton_append, anchor_dot_slash_cons]
  · rw [hanchor, hf.map_nil]
    rcases anchor_shape (f path) with ⟨more, hpath, -⟩ | ⟨hpath, -⟩ | ⟨more, hpath, -⟩ | ⟨-, hsame⟩
    · have habsolute : isAbsolute (f path) = true := by rw [hpath, isAbsolute_cons, decide_eq_true rfl]
      rw [hf.map_isAbsolute, hrelative] at habsolute
      cases habsolute
    · obtain rfl := (hf.dot_iff path).1 hpath
      rw [anchor_dot] at hanchor
      cases hanchor
    · have hcut : f path = [dot] ++ slash :: more := hpath
      obtain ⟨front, back, rfl, hfront, -⟩ := hf.exists_cut hcut slash_not_mem_dot
      obtain rfl := (hf.dot_iff front).1 hfront
      rw [List.singleton_append, anchor_dot_slash_cons] at hanchor
      cases hanchor
    · exact hsame

omit [DecidableEq β] in
/-- behind what it stands on, a path is mapped apart -/
theorem map_anchor_append {t : List α} (h : t <+: (anchor path).2) :
    f ((anchor path).1 ++ t) = f (anchor path).1 ++ f t := by
  rcases anchor_shape path with ⟨rest, rfl, hanchor⟩ | ⟨rfl, hanchor⟩ | ⟨rest, rfl, hanchor⟩ | ⟨-, hanchor⟩
  · rw [hanchor, hf.map_slash_cons [], hf.map_nil]
    exact hf.map_slash_cons t
  · rw [hanchor] at h ⊢
    rw [List.prefix_nil.1 h, hf.map_nil, List.append_nil, List.append_nil]
  · rw [hanchor] at h ⊢
    cases t with
    | nil => rw [hf.map_nil, List.append_nil, List.append_nil]
    | cons c t =>
      obtain rfl := (List.cons_prefix_cons.1 h).1
      rw [hf.cut, hf.map_slash_cons]
  · rw [hanchor, hf.map_nil]
    rfl

theorem map_dropIdle (parts : List (List α)) : dropIdle (parts.map f) = (dropIdle parts).map f := by
  have hidle : (isIdle ∘ f : List α → Bool) = isIdle := funext hf.map_isIdle
  unfold dropIdle
  rw [← List.map_reverse, List.dropWhile_map, hidle, List.map_reverse]

theorem map_body (path : List α) : body (f path) = (body path).map f := by
  rw [body, hf.map_anchor, hf.map_segments, hf.map_dropIdle, body]

theorem map_parent? (path : List α) : parent? (f path) = (parent? path).map f := by
  have hprefix := join_dropLast_isPrefix path
  have hbody := hf.map_body path
  cases hparts : body path with
  | nil =>
    rw [hparts, List.map_nil] at hbody
    simp only [parent?, hbody, hparts, hf.map_anchor, hf.dot_iff]
    split_ifs
    · rw [Option.map_some, hf.map_nil]
    · rfl
  | cons segment rest =>
    rw [hparts] at hbody hprefix
    simp only [parent?, hbody, hparts, hf.map_anchor, List.map_cons]
    rw [← List.map_cons, ← List.map_dropLast, hf.map_dropIdle, ← hf.map_join_slash, ← hf.map_anchor_append hprefix]
    rfl

theorem map_directory (path : List α) : directory (f path) = f (directory path) := by
  rw [directory, hf.map_parent?, directory]
  cases parent? path with
  | none => exact hf.map_nil.symm
  | some parent => rfl

theorem map_pop (path : List α) : pop (f path) = f (pop path) := by
  rw [pop, hf.map_parent?, pop]
  cases parent? path <;> rfl

omit [DecidableEq α] [DecidableEq β] in
theorem map_getLast? (path : List α) : (f path).getLast? = some slash ↔ path.getLast? = some slash := by
  constructor
  · intro h
    -- behind the last slash of the path nothing is left
    have hmem : slash ∈ path := hf.slash_mem path (List.mem_of_getLast? h)
    obtain ⟨back, front, hsplit, hback⟩ := List.eq_append_cons_of_mem (List.mem_reverse.2 hmem)
    have hpath : path = front.reverse ++ slash :: back.reverse := by
      rw [← List.reverse_reverse path, hsplit]
      simp
    have hnone : slash ∉ f back.reverse := fun h => hback (List.mem_reverse.1 (hf.slash_mem _ h))
    rw [hpath, hf.cut, List.getLast?_append_of_ne_nil _ (List.cons_ne_nil _ _)] at h
    rcases List.eq_nil_or_concat' (f back.reverse) with hnil | ⟨before, last, hlast⟩
    · rw [hpath, (hf.nil_iff _).1 hnil, List.getLast?_concat]
    · rw [hlast, ← List.cons_append, List.getLast?_concat] at h
      rw [hlast, Option.some.inj h] at hnone
      exact absurd (List.mem_append_right before (List.mem_singleton_self slash)) hnone
  · intro h
    obtain ⟨front, rfl⟩ := List.getLast?_eq_some_iff.1 h
    rw [hf.cut, hf.map_nil, List.getLast?_concat]

theorem map_join (base path : List α) : join (f base) (f path) = f (join base path) := by
  have hempty : (f base).isEmpty = base.isEmpty := by
    rw [Bool.eq_iff_iff, List.isEmpty_iff, List.isEmpty_iff, hf.nil_iff]
  unfold join
  simp only [hf.map_isAbsolute, hempty, hf.map_getLast?]
  split_ifs with hreplaced hslash
  · rfl
  · obtain ⟨front, rfl⟩ := List.getLast?_eq_some_iff.1 hslash
    rw [hf.cut, hf.map_nil, List.append_assoc, List.append_assoc, List.singleton_append, List.singleton_append, hf.cut]
  · rw [hf.cut]

/-! ## The normal form -/

theorem map_component? (segment : List α) : component? (f segment) = (component? segment).map (Component.map f) := by
  unfold component?
  simp only [hf.map_isIdle, hf.dots_iff]
  split_ifs <;> rfl

theorem map_components (path : List α) : components (f path) = (components path).map (Component.map f) := by
  have hrest : ((segments path).map f).filterMap component? =
      ((segments path).filterMap component?).map (Component.map f) := by
    rw [List.filterMap_map, List.map_filterMap]
    exact congrArg (List.filterMap · _) (funext hf.map_component?)
  unfold components
  simp only [hf.map_isAbsolute, hf.map_segments, hf.map_anchor, hf.dot_iff, hrest]
  split_ifs <;> rfl

theorem map_append (built : List α) (component : Component α) :
    append (f built) (component.map f) = f (append built component) := by
  cases component with
  | root =>
    have hroot : join (f built) (f [slash]) = f (join built [slash]) := hf.map_join built [slash]
    rwa [hf.map_slash_cons, hf.map_nil] at hroot
  | current => rfl
  | parent => exact hf.map_pop built
  | normal name => exact hf.map_join built name

theorem map_normalize (path : List α) : normalize (f path) = f (normalize path) := by
  have hfold : ∀ (parts : List (Component α)) (built : List α),
      (parts.map (Component.map f)).foldl append (f built) = f (parts.foldl append built) := by
    intro parts
    induction parts with
    | nil => exact fun _ => rfl
    | cons component rest ih => exact fun built => by rw [List.map_cons, List.foldl_cons, hf.map_append, ih]; rfl
  rw [normalize, hf.map_components, ← hf.map_nil, hfold, normalize]

end Piecewise

/-! ## Bytes and texts -/

theorem piecewise_decodeLossy : Piecewise Utf8.decodeLossy where
  cut front rest := Utf8.decodeLossy_append_cons (by decide) front rest
  slash_mem path h := Utf8.mem_of_mem_decodeLossy (by decide) (by decide) h
  nil_iff path := Utf8.decodeLossy_eq_nil_iff
  dot_iff path := by
    constructor
    · intro h
      obtain ⟨rest, rfl, hrest⟩ := (Utf8.decodeLossy_eq_cons_iff (by decide) (by decide)).1 h
      rw [Utf8.decodeLossy_eq_nil_iff.1 hrest]
      rfl
    · rintro rfl
      exact (Utf8.decodeLossy_eq_cons_iff (by decide) (by decide)).2 ⟨[], rfl, Utf8.decodeLossy_nil⟩
  dots_iff path := by
    have hlast : Utf8.decodeLossy [dot] = [dot] :=
      (Utf8.decodeLossy_eq_cons_iff (by decide) (by decide)).2 ⟨[], rfl, Utf8.decodeLossy_nil⟩
    constructor
    · intro h
      obtain ⟨rest, rfl, hrest⟩ := (Utf8.decodeLossy_eq_cons_iff (by decide) (by decide)).1 h
      obtain ⟨more, rfl, hmore⟩ := (Utf8.decodeLossy_eq_cons_iff (by decide) (by decide)).1 hrest
      rw [Utf8.decodeLossy_eq_nil_iff.1 hmore]
      rfl
    · rintro rfl
      exact (Utf8.decodeLossy_eq_cons_iff (by decide) (by decide)).2 ⟨[dot], rfl, hlast⟩

end Path

/-- an include path means where names are texts what is shown of its meaning where paths are bytes -/
theorem resolveBytes_shown {ε : Type} (here : Except ε (List UInt8)) (context : List UInt8) (path : Text) :
    resolvePath id (here.map Utf8.decodeLossy) (Utf8.decodeLossy context) path =
      (resolveBytes here context path).map fun resolved =>
        ⟨resolved.identity, resolved.display, Utf8.decodeLossy resolved.context⟩ := by
  have hf := Path.piecewise_decodeLossy
  have hjoin : Path.join (Utf8.decodeLossy context) path =
      Utf8.decodeLossy (Path.join context (Utf8.encode path)) := by
    rw [← hf.map_join, Utf8.decodeLossy_encode]
  unfold resolveBytes
  cases habsolute : Path.isAbsolute (Path.join context (Utf8.encode path)) with
  | true =>
    have hshown : Path.isAbsolute (Path.join (Utf8.decodeLossy context) path) = true := by
      rw [hjoin, hf.map_isAbsolute, habsolute]
    rw [resolvePath_of_isAbsolute id hshown, resolvePath_of_isAbsolute Utf8.decodeLossy habsolute, hjoin,
      hf.map_normalize, hf.map_directory]
    rfl
  | false =>
    have hshown : Path.isAbsolute (Path.join (Utf8.decodeLossy context) path) = false := by
      rw [hjoin, hf.map_isAbsolute, habsolute]
    rw [resolvePath_of_relative id hshown, resolvePath_of_relative Utf8.decodeLossy habsolute, hjoin]
    cases here with
    | error error => rfl
    | ok cwd =>
      simp only [Except.map, id, hf.map_join, hf.map_normalize, hf.map_directory]

end GlslInspect
