import Mathlib
import Literate.Files.FileTree

/-!
# What file operations change

A path that holds no double dot is followed name by name, so an operation on the path of a location
changes that location and nothing else; making directories changes only what leads to it.

* `FileTree.node?_set_self`, `FileTree.node?_set_of_ne`: what stands where after a change.
* `FileTree.read_of_write`: what was written under a path is read under it.
* `FileTree.Grows`: a tree with new directories on the way to a location.
* `FileTree.makeDirs_adds`: on whatever path, only directories are made.
* `FileTree.writeBelow_cases`: making the directories above a file and writing it.
-/

namespace Literate

open Text

/-- The part of a path that leads back. -/
abbrev parentPart : Text := ['.', '.']

namespace FileTree

variable {t t' : FileTree} {l k : Location} {n : Node}

/-! ## Setting one location -/

theorem lookup_setIn (l k : Location) (n : Node) (entries : List (Location × Node)) :
    (setIn l n entries).lookup k = if k = l then some n else entries.lookup k := by
  induction entries with
  | nil =>
    rw [setIn, List.lookup_cons]
    by_cases h : k = l
    · simp [h]
    · simp [h, beq_eq_false_iff_ne.mpr h]
  | cons entry entries ih =>
    obtain ⟨m, node⟩ := entry
    rw [setIn]
    split_ifs with hm hk hk
    · rw [List.lookup_cons, hk, beq_self_eq_true]
    · rw [List.lookup_cons, List.lookup_cons, hm, beq_eq_false_iff_ne.mpr hk]
    · rw [List.lookup_cons, ih, if_pos hk, beq_eq_false_iff_ne.mpr (by rw [hk]; exact Ne.symm hm)]
    · rw [List.lookup_cons, List.lookup_cons, ih, if_neg hk]

theorem node?_nil (t : FileTree) : t.node? [] = some .directory := rfl

theorem node?_set_self (hl : l ≠ []) : (t.set l n).node? l = some n := by
  rw [node?, if_neg (by simpa using hl), set, lookup_setIn, if_pos rfl]

theorem node?_set_of_ne (hk : k ≠ l) : (t.set l n).node? k = t.node? k := by
  unfold node?
  split_ifs
  · rfl
  · rw [set, lookup_setIn, if_neg hk]

/-- The root stays what it is, so where something other than a directory stands is not the root. -/
theorem ne_nil_of_node?_ne (h : t.node? l ≠ some .directory) : l ≠ [] := by
  rintro rfl
  exact h (node?_nil t)

/-! ## Following paths -/

theorem walk_cons_inv {m : Location} {p : Text} {ps : List Text} (h : t.walk m (p :: ps) = .ok k) :
    t.node? m = some .directory ∧
      (p = parentPart ∧ t.walk m.dropLast ps = .ok k ∨
        p ≠ parentPart ∧ isTooLong p = false ∧ (t.node? (m ++ [p])).isSome ∧
          t.walk (m ++ [p]) ps = .ok k) := by
  rw [walk] at h
  cases hm : t.node? m with
  | none => simp [hm] at h
  | some node =>
    cases node with
    | file content => simp [hm] at h
    | directory =>
      simp only [hm] at h
      split_ifs at h with hp hlong hsome
      · exact ⟨rfl, .inl ⟨hp, h⟩⟩
      · exact ⟨rfl, .inr ⟨hp, by simpa using hlong, hsome, h⟩⟩

/-- A path is followed in two parts. -/
theorem walk_append {m : Location} {ps qs : List Text} (h : t.walk m ps = .ok k) :
    t.walk m (ps ++ qs) = t.walk k qs := by
  induction ps generalizing m with
  | nil =>
    cases h
    rfl
  | cons p ps ih =>
    obtain ⟨hm, ⟨hp, h⟩ | ⟨hp, hlong, hsome, h⟩⟩ := walk_cons_inv h
    · rw [List.cons_append, walk, hm]
      simp only [if_pos hp]
      exact ih h
    · rw [List.cons_append, walk, hm]
      simp only [if_neg hp, hlong, hsome, if_true, if_false, Bool.false_eq_true]
      exact ih h

/-- Without double dots a path leads where it says. -/
theorem walk_eq_append {m : Location} {ps : List Text} (hps : parentPart ∉ ps)
    (h : t.walk m ps = .ok k) : k = m ++ ps := by
  induction ps generalizing m with
  | nil =>
    cases h
    simp
  | cons p ps ih =>
    rw [List.mem_cons, not_or] at hps
    obtain ⟨-, ⟨hp, -⟩ | ⟨-, -, -, h⟩⟩ := walk_cons_inv h
    · exact absurd hp.symm hps.1
    · rw [ih hps.2 h, List.append_assoc]
      rfl

/-- A path is followed through directories only, so it does not matter what is put in place of
anything else. -/
theorem walk_set (hl : t.node? l ≠ some .directory) {m : Location} {ps : List Text}
    (h : t.walk m ps = .ok k) : (t.set l n).walk m ps = .ok k := by
  induction ps generalizing m with
  | nil => exact h
  | cons p ps ih =>
    obtain ⟨hm, hcases⟩ := walk_cons_inv h
    have hml : m ≠ l := by
      rintro rfl
      exact hl hm
    rw [walk, node?_set_of_ne hml, hm]
    obtain ⟨hp, h⟩ | ⟨hp, hlong, hsome, h⟩ := hcases
    · simp only [if_pos hp]
      exact ih h
    · have hsome' : ((t.set l n).node? (m ++ [p])).isSome = true := by
        by_cases hmp : m ++ [p] = l
        · rw [hmp, node?_set_self (ne_nil_of_node?_ne hl)]
          rfl
        · rwa [node?_set_of_ne hmp]
      simp only [if_neg hp, hlong, hsome', if_true, if_false, Bool.false_eq_true]
      exact ih h

/-- Where a path is placed: its last part is followed from a directory. -/
theorem place_inv {cwd : Location} {p : FilePath} (h : t.place cwd p = .ok l) :
    (p.parts = [] ∧ l = origin cwd p) ∨
      ∃ init last dir, p.parts = init ++ [last] ∧ t.walk (origin cwd p) init = .ok dir ∧
        t.node? dir = some .directory ∧
        (last = parentPart ∧ l = dir.dropLast ∨
          last ≠ parentPart ∧ isTooLong last = false ∧ l = dir ++ [last]) := by
  rw [place] at h
  rcases List.eq_nil_or_concat' p.parts with hp | ⟨init, last, hp⟩
  · simp only [hp, List.getLast?_nil, Except.ok.injEq] at h
    exact .inl ⟨hp, h.symm⟩
  · right
    simp only [hp, List.getLast?_append, List.getLast?_singleton, Option.some_or,
      List.dropLast_concat] at h
    cases hw : t.walk (origin cwd p) init with
    | error c => simp [hw] at h
    | ok dir =>
      simp only [hw] at h
      refine ⟨init, last, dir, hp, hw, ?_⟩
      split at h
      · rename_i hdir
        refine ⟨hdir, ?_⟩
        split_ifs at h with hlast hlong
        · cases h
          exact .inl ⟨hlast, rfl⟩
        · cases h
          exact .inr ⟨hlast, by simpa using hlong, rfl⟩
      · cases h

theorem write_inv {cwd : Location} {p : FilePath} {content : Bytes}
    (h : t.write cwd p content = .ok t') :
    ∃ l, t.place cwd p = .ok l ∧ t.node? l ≠ some .directory ∧ t' = t.set l (.file content) := by
  rw [write] at h
  cases hp : t.place cwd p with
  | error c => simp [hp] at h
  | ok l =>
    simp only [hp] at h
    split at h
    · cases h
    · rename_i hl
      cases h
      exact ⟨l, rfl, hl, rfl⟩

/-- **What was written is read.** -/
theorem read_of_write {cwd : Location} {p : FilePath} {content : Bytes}
    (h : t.write cwd p content = .ok t') : t'.read cwd p = .ok content := by
  obtain ⟨l, hplace, hl, rfl⟩ := write_inv h
  have hself : (t.set l (.file content)).node? l = some (.file content) :=
    node?_set_self (ne_nil_of_node?_ne hl)
  have hwalk : (t.set l (.file content)).walk (origin cwd p) p.parts = .ok l := by
    rcases place_inv hplace with ⟨hp, rfl⟩ | ⟨init, last, dir, hp, hw, hdir, hlast⟩
    · rw [hp]
      rfl
    · have hne : dir ≠ l := by
        rintro rfl
        exact hl hdir
      rw [hp, walk_append (walk_set hl hw), walk, node?_set_of_ne hne, hdir]
      obtain ⟨hlast, rfl⟩ | ⟨hlast, hlong, rfl⟩ := hlast
      · simp [hlast, walk]
      · simp [hlast, hlong, hself, walk]
  rw [read, stat, hwalk]
  simp only [hself]

/-! ## Locations without double dots -/

theorem place_ofLocation (hl : parentPart ∉ l) (h : t.place [] (.ofLocation l) = .ok k) :
    k = l := by
  obtain ⟨hp, rfl⟩ | ⟨init, last, dir, hp, hw, -, hlast⟩ := place_inv h
  · exact hp.symm
  · have hparts : l = init ++ [last] := hp
    rw [hparts, List.mem_append, List.mem_singleton, not_or] at hl
    obtain ⟨rfl, -⟩ | ⟨-, -, rfl⟩ := hlast
    · exact absurd rfl hl.2
    · rw [walk_eq_append hl.1 hw, hparts]
      rfl

/-- A tree in which directories on the way to a location were made, itself included. -/
def Grows (l : Location) (t t' : FileTree) : Prop :=
  ∀ k, t'.node? k = t.node? k ∨ t.node? k = none ∧ t'.node? k = some .directory ∧ k <+: l

namespace Grows

theorem refl (l : Location) (t : FileTree) : Grows l t t := fun _ => .inl rfl

theorem trans {u : FileTree} (h : Grows l t t') (h' : Grows l t' u) : Grows l t u := by
  intro k
  rcases h' k with heq | ⟨hnone, hdir, hk⟩
  · rw [heq]
    exact h k
  · rcases h k with heq | ⟨-, hdir', -⟩
    · exact .inr ⟨by rw [← heq, hnone], hdir, hk⟩
    · rw [hnone] at hdir'
      cases hdir'

theorem mono {m : Location} (h : Grows l t t') (hlm : l <+: m) : Grows m t t' := by
  intro k
  rcases h k with heq | ⟨hnone, hdir, hk⟩
  · exact .inl heq
  · exact .inr ⟨hnone, hdir, hk.trans hlm⟩

/-- What was there stays. -/
theorem node?_of_isSome (h : Grows l t t') (hk : (t.node? k).isSome) : t'.node? k = t.node? k := by
  rcases h k with heq | ⟨hnone, -, -⟩
  · exact heq
  · simp [hnone] at hk

end Grows

/-- A directory that is ensured was there or is new. -/
theorem ensureDir_inv {cwd : Location} {p : FilePath} (h : t.ensureDir cwd p = .ok t') :
    t' = t ∨ ∃ l, t.place cwd p = .ok l ∧ t.node? l = none ∧ t' = t.set l .directory := by
  rw [ensureDir, makeDir] at h
  cases hp : t.place cwd p with
  | error c =>
    simp only [hp] at h
    split_ifs at h
    cases h
    exact .inl rfl
  | ok l =>
    simp only [hp] at h
    by_cases hl : (t.node? l).isSome = true
    · rw [if_pos hl] at h
      split_ifs at h
      cases h
      exact .inl rfl
    · rw [if_neg hl] at h
      cases h
      exact .inr ⟨l, rfl, by simpa using hl, rfl⟩

/-- Making directories does what ensuring each of them does. -/
theorem makeDirsAt_rel {R : FileTree → FileTree → Prop} (hrefl : ∀ t, R t t)
    (htrans : ∀ {t u v}, R t u → R u v → R t v) {cwd : Location} {anchor : Anchor}
    {parts : List Text}
    (hstep : ∀ {n t t'}, t.ensureDir cwd ⟨anchor, parts.take n⟩ = .ok t' → R t t') (n : ℕ)
    (t : FileTree) : R t (t.makeDirsAt cwd anchor parts n).1 := by
  induction n with
  | zero =>
    rw [makeDirsAt]
    split
    · rename_i t' h
      exact hstep (n := 0) h
    · exact hrefl t
  | succ n ih =>
    rw [makeDirsAt]
    cases hfirst : t.ensureDir cwd ⟨anchor, parts.take (n + 1)⟩ with
    | ok t' => exact hstep hfirst
    | error e =>
      dsimp only
      split_ifs
      · cases habove : makeDirsAt t cwd anchor parts n with
        | mk t' failure =>
          rw [habove] at ih
          cases failure with
          | some e' => exact ih
          | none =>
            dsimp only
            cases hagain : t'.ensureDir cwd ⟨anchor, parts.take (n + 1)⟩ with
            | ok t'' => exact htrans ih (hstep hagain)
            | error e' => exact ih
      · exact hrefl t

theorem ensureDir_grows (hl : parentPart ∉ l) (h : t.ensureDir [] (.ofLocation l) = .ok t') :
    Grows l t t' := by
  obtain rfl | ⟨m, hplace, hm, rfl⟩ := ensureDir_inv h
  · exact .refl l t'
  · obtain rfl := place_ofLocation hl hplace
    intro k
    by_cases hk : k = m
    · subst hk
      have hne : k ≠ [] := by
        rintro rfl
        cases hm
      exact .inr ⟨hm, node?_set_self hne, List.prefix_rfl⟩
    · exact .inl (node?_set_of_ne hk)

theorem makeDirsAt_grows (hl : parentPart ∉ l) (n : ℕ) (t : FileTree) :
    Grows l t (t.makeDirsAt [] .absolute l n).1 :=
  makeDirsAt_rel (Grows.refl l) Grows.trans
    (fun h => (ensureDir_grows (fun hmem => hl (List.mem_of_mem_take hmem)) h).mono
      (List.take_prefix _ _)) n t

/-- A tree in which directories were made. -/
def Adds (t t' : FileTree) : Prop :=
  ∀ k, t'.node? k = t.node? k ∨ t.node? k = none ∧ t'.node? k = some .directory

theorem Adds.refl (t : FileTree) : Adds t t := fun _ => .inl rfl

theorem Adds.trans {u : FileTree} (h : Adds t t') (h' : Adds t' u) : Adds t u := by
  intro k
  rcases h' k with heq | ⟨hnone, hdir⟩
  · rw [heq]
    exact h k
  · rcases h k with heq | ⟨-, hdir'⟩
    · exact .inr ⟨by rw [← heq, hnone], hdir⟩
    · rw [hnone] at hdir'
      cases hdir'

/-- The files stay what they are, and no new ones come. -/
theorem Adds.file_iff (h : Adds t t') {content : Bytes} :
    t'.node? k = some (.file content) ↔ t.node? k = some (.file content) := by
  rcases h k with heq | ⟨hnone, hdir⟩
  · rw [heq]
  · simp [hnone, hdir]

/-- Whatever the path, making directories makes directories only. -/
theorem makeDirs_adds (t : FileTree) (cwd : Location) (p : FilePath) :
    Adds t (t.makeDirs cwd p).1 := by
  refine makeDirsAt_rel (R := Adds) Adds.refl Adds.trans (fun h => ?_) _ t
  obtain rfl | ⟨l, -, hl, rfl⟩ := ensureDir_inv h
  · exact .refl _
  · intro k
    by_cases hk : k = l
    · subst hk
      have hne : k ≠ [] := by
        rintro rfl
        cases hl
      exact .inr ⟨hl, node?_set_self hne⟩
    · exact .inl (node?_set_of_ne hk)

/-- A file stands at the end of a path. -/
theorem isFile_eq_true_iff {cwd : Location} {p : FilePath} :
    t.isFile cwd p = .ok true ↔
      ∃ l content, t.walk (origin cwd p) p.parts = .ok l ∧ t.node? l = some (.file content) := by
  unfold isFile stat
  cases hwalk : t.walk (origin cwd p) p.parts with
  | error c => cases c <;> simp
  | ok l =>
    cases hl : t.node? l with
    | none => simp [hl]
    | some n => cases n <;> simp [hl]

/-- A file that can be read stands there. -/
theorem isFile_of_read {cwd : Location} {p : FilePath} {content : Bytes}
    (h : t.read cwd p = .ok content) : t.isFile cwd p = .ok true := by
  unfold read at h
  unfold isFile
  cases hstat : t.stat cwd p with
  | error c => simp [hstat] at h
  | ok n =>
    cases n with
    | file content => rfl
    | directory => simp [hstat] at h

/-- **Writing a file below new directories.**  Directories above the file are made; then the writing
fails, or the file is new or written in place of a file. -/
theorem writeBelow_cases (hl : parentPart ∉ l) (t : FileTree) (content : Bytes) :
    ∃ t', Grows l.dropLast t t' ∧
      ((∃ e, t.writeBelow [] (.ofLocation l) content = (t', some e)) ∨
        (t'.node? l ≠ some .directory ∧
          t.writeBelow [] (.ofLocation l) content = (t'.set l (.file content), none))) := by
  have hgrows : Grows l.dropLast t (t.makeDirs [] (FilePath.ofLocation l).parent).1 :=
    makeDirsAt_grows (fun h => hl (List.mem_of_mem_dropLast h)) _ t
  rw [writeBelow]
  cases hmake : t.makeDirs [] (FilePath.ofLocation l).parent with
  | mk t' failure =>
    rw [hmake] at hgrows
    refine ⟨t', hgrows, ?_⟩
    cases failure with
    | some e => exact .inl ⟨e, rfl⟩
    | none =>
      dsimp only
      cases hwrite : t'.write [] (.ofLocation l) content with
      | error e => exact .inl ⟨e, rfl⟩
      | ok t'' =>
        obtain ⟨m, hplace, hm, rfl⟩ := write_inv hwrite
        obtain rfl := place_ofLocation hl hplace
        exact .inr ⟨hm, rfl⟩

end FileTree

end Literate
