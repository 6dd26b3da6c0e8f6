import Mathlib
import Literate.Proofs.Files.FileTree

/-!
# What a location leads to

A location is followed name by name to what stands at its end, or up to where it can be followed no
further: a name is missing, is too long, or would have to lie in a file.  Only what is missing can
still come; everything else is settled and stays as long as directories stay directories and files
stay files.

* `FileTree.at?`: what a location leads to; `FileTree.at?_concat` follows the last name.
* `FileTree.Blocked`: no file can be written at the location, whatever is made on the way.
* `FileTree.KeepsKinds.at?_eq`: what is settled stays.
* `FileTree.writeBelow_settles`: after writing a file below new directories the file stands there, or
  the location is blocked.
* `FileTree.writeBelow_of_file`, `FileTree.writeBelow_of_blocked`: in both cases the same writing
  does the same again and changes nothing.
-/

namespace Literate

open Text

namespace FileTree

variable {t t' u : FileTree} {l q : Location} {p : Text} {n : Node} {content : Bytes}

/-! ## Following a location -/

/-- What a location leads to. -/
def at? (t : FileTree) (l : Location) : Except OsCause Node := t.stat [] (.ofLocation l)

theorem parentPart_notMem_concat : parentPart ∉ q ++ [p] ↔ parentPart ∉ q ∧ p ≠ parentPart := by
  rw [List.mem_append, List.mem_singleton, not_or]
  exact and_congr_right fun _ => ne_comm

theorem at?_nil (t : FileTree) : t.at? [] = .ok .directory := rfl

theorem at?_of_walk_error {c : OsCause} (h : t.walk [] l = .error c) : t.at? l = .error c := by
  have hwalk : t.walk (origin [] (.ofLocation l)) (FilePath.ofLocation l).parts = .error c := h
  rw [at?, stat, hwalk]

theorem at?_of_walk {k : Location} (h : t.walk [] l = .ok k) :
    t.at? l = (t.node? k).elim (.error .notFound) .ok := by
  have hwalk : t.walk (origin [] (.ofLocation l)) (FilePath.ofLocation l).parts = .ok k := h
  rw [at?, stat, hwalk]
  cases hk : t.node? k <;> simp [hk]

theorem at?_eq_ok_iff (hl : parentPart ∉ l) :
    t.at? l = .ok n ↔ t.walk [] l = .ok l ∧ t.node? l = some n := by
  cases hwalk : t.walk [] l with
  | error c => simp [at?_of_walk_error hwalk]
  | ok k =>
    obtain rfl : k = l := walk_eq_append hl hwalk
    rw [at?_of_walk hwalk]
    cases hk : t.node? k <;> simp

/-- A path from the root that can be followed leads to something. -/
theorem isSome_of_walk {m k : Location} {ps : List Text} (hm : (t.node? m).isSome)
    (hps : parentPart ∉ ps) (h : t.walk m ps = .ok k) : (t.node? k).isSome := by
  induction ps generalizing m with
  | nil =>
    cases h
    exact hm
  | cons p ps ih =>
    rw [List.mem_cons, not_or] at hps
    obtain ⟨-, ⟨hp, -⟩ | ⟨-, -, hsome, h⟩⟩ := walk_cons_inv h
    · exact absurd hp.symm hps.1
    · exact ih hsome hps.2 h

/-- A location that leads nowhere cannot be followed. -/
theorem walk_of_at?_error (hl : parentPart ∉ l) {c : OsCause} (h : t.at? l = .error c) :
    t.walk [] l = .error c := by
  cases hwalk : t.walk [] l with
  | error c' =>
    rw [at?_of_walk_error hwalk] at h
    cases h
    rfl
  | ok k =>
    obtain rfl : k = l := walk_eq_append hl hwalk
    obtain ⟨n, hn⟩ := Option.isSome_iff_exists.mp (isSome_of_walk (m := []) rfl hl hwalk)
    rw [(at?_eq_ok_iff hl).mpr ⟨hwalk, hn⟩] at h
    cases h

theorem walk_append_of_error {m : Location} {ps qs : List Text} {c : OsCause}
    (h : t.walk m ps = .error c) : t.walk m (ps ++ qs) = .error c := by
  induction ps generalizing m with
  | nil => cases h
  | cons p ps ih =>
    rw [walk] at h
    rw [List.cons_append, walk]
    cases hm : t.node? m with
    | none => simpa [hm] using h
    | some node =>
      cases node with
      | file content => simpa [hm] using h
      | directory =>
        simp only [hm] at h ⊢
        split_ifs at h ⊢ with hp hlong hsome
        · exact ih h
        · exact h
        · exact ih h
        · exact h

/-- **One more name.**  The name must be short enough and lie in a directory. -/
theorem at?_concat (hq : parentPart ∉ q) (hp : p ≠ parentPart) :
    t.at? (q ++ [p]) =
      match t.at? q with
      | .error c => .error c
      | .ok (.file _) => .error .notDirectory
      | .ok .directory =>
        if isTooLong p then .error .nameTooLong
        else match t.node? (q ++ [p]) with
          | some n => .ok n
          | none => .error .notFound := by
  cases hat : t.at? q with
  | error c => exact at?_of_walk_error (walk_append_of_error (walk_of_at?_error hq hat))
  | ok n =>
    obtain ⟨hwalk, hn⟩ := (at?_eq_ok_iff hq).mp hat
    cases n with
    | file content => exact at?_of_walk_error (by rw [walk_append hwalk, walk, hn])
    | directory =>
      dsimp only
      by_cases hlong : isTooLong p = true
      · rw [if_pos hlong]
        apply at?_of_walk_error
        rw [walk_append hwalk, walk, hn]
        simp only [if_neg hp, if_pos hlong]
      · rw [if_neg hlong]
        cases hnode : t.node? (q ++ [p]) with
        | none =>
          apply at?_of_walk_error
          rw [walk_append hwalk, walk, hn]
          simp [hp, hlong, hnode]
        | some m =>
          have hwhole : t.walk [] (q ++ [p]) = .ok (q ++ [p]) := by
            rw [walk_append hwalk, walk, hn]
            simp [hp, hlong, hnode, walk]
          rw [at?_of_walk hwhole, hnode]
          rfl

/-- Where a location is placed. -/
theorem place_concat (hq : parentPart ∉ q) (hp : p ≠ parentPart) :
    t.place [] (.ofLocation (q ++ [p])) =
      match t.at? q with
      | .error c => .error c
      | .ok (.file _) => .error .notDirectory
      | .ok .directory => if isTooLong p then .error .nameTooLong else .ok (q ++ [p]) := by
  have horigin : origin [] (.ofLocation (q ++ [p])) = [] := rfl
  have hlast : (FilePath.ofLocation (q ++ [p])).parts.getLast? = some p := List.getLast?_concat
  have hinit : (FilePath.ofLocation (q ++ [p])).parts.dropLast = q := List.dropLast_concat
  unfold place
  rw [hlast, hinit, horigin]
  dsimp only
  cases hat : t.at? q with
  | error c => rw [walk_of_at?_error hq hat]
  | ok n =>
    obtain ⟨hwalk, hn⟩ := (at?_eq_ok_iff hq).mp hat
    rw [hwalk]
    dsimp only
    rw [hn]
    cases n with
    | file content => rfl
    | directory => exact if_neg hp

/-! ## What is settled -/

/-- Directories stay directories and files stay files. -/
def KeepsKinds (t u : FileTree) : Prop :=
  ∀ k, (t.node? k = some .directory → u.node? k = some .directory) ∧
    ∀ c, t.node? k = some (.file c) → ∃ c', u.node? k = some (.file c')

/-- No file can be written at the location, whatever is made on the way: it is a directory, it leads
through a file, or a name in it is too long. -/
def Blocked (t : FileTree) (l : Location) : Prop :=
  t.at? l ≠ .error .notFound ∧ ∀ content, t.at? l ≠ .ok (.file content)

/-- **What is settled stays**: what a location leads to, unless a name is missing; a file may have
other content. -/
theorem KeepsKinds.at?_eq (h : KeepsKinds t u) (hl : parentPart ∉ l) :
    u.at? l = t.at? l ∨ t.at? l = .error .notFound ∨
      ∃ c c', t.at? l = .ok (.file c) ∧ u.at? l = .ok (.file c') := by
  induction l using List.reverseRecOn with
  | nil => exact .inl rfl
  | append_singleton q p ih =>
    obtain ⟨hq, hp⟩ := parentPart_notMem_concat.mp hl
    rw [at?_concat hq hp, at?_concat hq hp]
    rcases ih hq with heq | hmissing | ⟨c, c', hfile, hfile'⟩
    · rw [heq]
      cases t.at? q with
      | error c => exact .inl rfl
      | ok n =>
        cases n with
        | file content => exact .inl rfl
        | directory =>
          dsimp only
          split_ifs
          · exact .inl rfl
          · cases hnode : t.node? (q ++ [p]) with
            | none => exact .inr (.inl rfl)
            | some m =>
              cases m with
              | directory => rw [(h _).1 hnode]; exact .inl rfl
              | file content =>
                obtain ⟨content', hnode'⟩ := (h _).2 content hnode
                rw [hnode']
                exact .inr (.inr ⟨content, content', rfl, rfl⟩)
    · rw [hmissing]
      exact .inr (.inl rfl)
    · rw [hfile, hfile']
      exact .inl rfl

theorem KeepsKinds.blocked (h : KeepsKinds t u) (hl : parentPart ∉ l) (hblocked : Blocked t l) :
    Blocked u l := by
  rcases h.at?_eq hl with heq | hmissing | ⟨c, c', hfile, -⟩
  · rwa [Blocked, heq]
  · exact absurd hmissing hblocked.1
  · exact absurd hfile (hblocked.2 c)

/-- A file that keeps its content is still found. -/
theorem KeepsKinds.at?_file (h : KeepsKinds t u) (hl : parentPart ∉ l)
    (hat : t.at? l = .ok (.file content)) (hnode : u.node? l = some (.file content)) :
    u.at? l = .ok (.file content) := by
  rcases h.at?_eq hl with heq | hmissing | ⟨c, c', -, hfile'⟩
  · rw [heq, hat]
  · rw [hat] at hmissing
    cases hmissing
  · rw [((at?_eq_ok_iff hl).mp hfile').2] at hnode
    cases hnode
    exact hfile'

/-! ## Making a directory and what is above it -/

theorem isDirectory_iff : t.isDirectory [] (.ofLocation l) = true ↔ t.at? l = .ok .directory := by
  unfold isDirectory at?
  cases t.stat [] (.ofLocation l) with
  | error c => simp
  | ok n => cases n <;> simp

/-- Where a directory stands, none is made. -/
theorem ensureDir_of_directory (hl : parentPart ∉ l) (h : t.at? l = .ok .directory) :
    t.ensureDir [] (.ofLocation l) = .ok t := by
  have hnode := ((at?_eq_ok_iff hl).mp h).2
  have hmake : ∃ e, t.makeDir [] (.ofLocation l) = .error e := by
    rw [makeDir]
    cases hplace : t.place [] (.ofLocation l) with
    | error c => exact ⟨_, rfl⟩
    | ok k =>
      obtain rfl := place_ofLocation hl hplace
      exact ⟨⟨.exists, (FilePath.ofLocation k).toText⟩, by simp [hnode]⟩
  obtain ⟨e, he⟩ := hmake
  rw [ensureDir, he]
  exact if_pos (isDirectory_iff.mpr h)

/-- Where no directory stands, one is made. -/
theorem ensureDir_eq_makeDir (h : t.at? l ≠ .ok .directory) :
    t.ensureDir [] (.ofLocation l) = t.makeDir [] (.ofLocation l) := by
  rw [ensureDir]
  cases t.makeDir [] (.ofLocation l) with
  | ok t' => rfl
  | error e => exact if_neg (mt isDirectory_iff.mp h)

/-- No directory can be made at the location, whatever is made on the way: it is a file, it leads
through a file, or a name in it is too long. -/
def Barred (t : FileTree) (l : Location) : Prop :=
  t.at? l ≠ .error .notFound ∧ t.at? l ≠ .ok .directory

/-- Where no directory can be made, nothing can be put below. -/
theorem Barred.at?_concat (h : Barred t q) (hq : parentPart ∉ q) (hp : p ≠ parentPart) :
    t.at? (q ++ [p]) ≠ .error .notFound ∧ ∀ n, t.at? (q ++ [p]) ≠ .ok n := by
  rw [FileTree.at?_concat hq hp]
  obtain ⟨hmissing, hdir⟩ := h
  cases hat : t.at? q with
  | error c =>
    refine ⟨?_, by simp⟩
    rintro heq
    cases heq
    exact hmissing hat
  | ok n =>
    cases n with
    | directory => exact absurd hat hdir
    | file content => exact ⟨by simp, by simp⟩

/-- A directory that is made stands. -/
theorem at?_set_directory (hq : parentPart ∉ q) (hp : p ≠ parentPart)
    (hat : t.at? q = .ok .directory) (hlong : ¬ isTooLong p = true)
    (hnode : t.node? (q ++ [p]) = none) :
    (t.set (q ++ [p]) .directory).at? (q ++ [p]) = .ok .directory := by
  obtain ⟨hwalk, hdir⟩ := (at?_eq_ok_iff hq).mp hat
  have hne : q ≠ q ++ [p] := by simp
  have hself : (t.set (q ++ [p]) .directory).node? (q ++ [p]) = some .directory :=
    node?_set_self (by simp)
  have hwalk' := walk_set (n := .directory) (l := q ++ [p]) (by simp [hnode]) hwalk
  have hatq : (t.set (q ++ [p]) .directory).at? q = .ok .directory :=
    (at?_eq_ok_iff hq).mpr ⟨hwalk', by rw [node?_set_of_ne hne, hdir]⟩
  rw [at?_concat hq hp, hatq]
  simp only [if_neg hlong, hself]

/-- **Making one directory.**  It stands, or it cannot be made, or it would have to lie in a directory
that is missing. -/
theorem ensureDir_cases (hl : parentPart ∉ l) (t : FileTree) :
    (∃ t', t.ensureDir [] (.ofLocation l) = .ok t' ∧ t'.at? l = .ok .directory ∧ ¬ Barred t l) ∨
      (∃ e, t.ensureDir [] (.ofLocation l) = .error e ∧ e.cause ≠ .notFound ∧ Barred t l) ∨
      ∃ e, t.ensureDir [] (.ofLocation l) = .error e ∧ e.cause = .notFound ∧
        t.at? l.dropLast = .error .notFound := by
  by_cases hdir : t.at? l = .ok .directory
  · exact .inl ⟨t, ensureDir_of_directory hl hdir, hdir, fun h => h.2 hdir⟩
  rcases List.eq_nil_or_concat' l with rfl | ⟨q, p, rfl⟩
  · exact absurd (at?_nil t) hdir
  obtain ⟨hq, hp⟩ := parentPart_notMem_concat.mp hl
  have hconcat := at?_concat (t := t) hq hp
  rw [List.dropLast_concat, ensureDir_eq_makeDir hdir, makeDir, place_concat hq hp]
  cases hat : t.at? q with
  | error c =>
    rw [hat] at hconcat
    by_cases hc : c = .notFound
    · subst hc
      exact .inr (.inr ⟨_, rfl, rfl, rfl⟩)
    · exact .inr (.inl ⟨_, rfl, hc, by rw [hconcat]; simpa using hc, hdir⟩)
  | ok n =>
    rw [hat] at hconcat
    cases n with
    | file content => exact .inr (.inl ⟨_, rfl, by simp, by simp [hconcat], hdir⟩)
    | directory =>
      dsimp only at hconcat ⊢
      by_cases hlong : isTooLong p = true
      · rw [if_pos hlong] at hconcat ⊢
        exact .inr (.inl ⟨_, rfl, by simp, by simp [hconcat], hdir⟩)
      · rw [if_neg hlong] at hconcat ⊢
        cases hnode : t.node? (q ++ [p]) with
        | some node =>
          rw [hnode] at hconcat
          simp only [hnode]
          exact .inr (.inl ⟨_, rfl, by simp, by simp [hconcat], hdir⟩)
        | none =>
          rw [hnode] at hconcat
          simp only [hnode]
          exact .inl ⟨_, rfl, at?_set_directory hq hp hat hlong hnode, fun h => h.1 hconcat⟩

/-- After making a directory and what is above it, it stands or cannot be made. -/
theorem makeDirsAt_settles (hl : parentPart ∉ l) (n : ℕ) (hn : n ≤ l.length) (t : FileTree) :
    ((t.makeDirsAt [] .absolute l n).2 = none ∧
        (t.makeDirsAt [] .absolute l n).1.at? (l.take n) = .ok .directory) ∨
      ((t.makeDirsAt [] .absolute l n).2 ≠ none ∧
        Barred (t.makeDirsAt [] .absolute l n).1 (l.take n)) := by
  induction n with
  | zero =>
    rw [makeDirsAt, show t.ensureDir [] ⟨.absolute, []⟩ = .ok t from
      ensureDir_of_directory (l := []) (by simp) (at?_nil t)]
    exact .inl ⟨rfl, at?_nil t⟩
  | succ n ih =>
    obtain ⟨p, htake⟩ : ∃ p, l.take (n + 1) = l.take n ++ [p] :=
      ⟨l[n], List.take_succ_eq_append_getElem (by omega)⟩
    have hpath : (⟨.absolute, l.take (n + 1)⟩ : FilePath) = .ofLocation (l.take n ++ [p]) := by
      rw [htake]
      rfl
    have hqp : parentPart ∉ l.take n ++ [p] := htake ▸ fun h => hl (List.mem_of_mem_take h)
    obtain ⟨hq, hp⟩ := parentPart_notMem_concat.mp hqp
    rw [makeDirsAt, hpath, htake]
    rcases ensureDir_cases hqp t with ⟨t', hok, hstands, -⟩ | ⟨e, herror, hcause, hbarred⟩ |
      ⟨e, herror, hcause, hmissing⟩
    · rw [hok]
      exact .inl ⟨rfl, hstands⟩
    · rw [herror]
      simp only [if_neg hcause]
      exact .inr ⟨by simp, hbarred⟩
    · rw [herror]
      simp only [if_pos hcause]
      cases habove : makeDirsAt t [] .absolute l n with
      | mk t' failure =>
        rw [habove] at ih
        rcases ih (by omega) with ⟨hnone, hstands⟩ | ⟨hsome, hbarred⟩
        · obtain rfl : failure = none := hnone
          dsimp only at hstands ⊢
          -- the directory above stands, so it is not missing a second time
          rcases ensureDir_cases hqp t' with ⟨t'', hok, hstands', -⟩ |
            ⟨e', herror', -, hbarred⟩ | ⟨e', -, -, hmissing'⟩
          · rw [hok]
            exact .inl ⟨rfl, hstands'⟩
          · rw [herror']
            exact .inr ⟨by simp, hbarred⟩
          · rw [List.dropLast_concat, hstands] at hmissing'
            cases hmissing'
        · cases failure with
          | none => exact absurd rfl hsome
          | some e' =>
            obtain ⟨hmissing', hnone⟩ := hbarred.at?_concat hq hp
            exact .inr ⟨by simp, hmissing', hnone _⟩

theorem makeDirs_settles (hl : parentPart ∉ l) (t : FileTree) :
    (∃ t', t.makeDirs [] (.ofLocation l) = (t', none) ∧ t'.at? l = .ok .directory) ∨
      ∃ t' e, t.makeDirs [] (.ofLocation l) = (t', some e) ∧ Barred t' l := by
  have hsettles := makeDirsAt_settles hl l.length le_rfl t
  rw [List.take_length] at hsettles
  show (∃ t', t.makeDirsAt [] .absolute l l.length = (t', none) ∧ _) ∨
    ∃ t' e, t.makeDirsAt [] .absolute l l.length = (t', some e) ∧ _
  cases hmake : t.makeDirsAt [] .absolute l l.length with
  | mk t' failure =>
    rw [hmake] at hsettles
    rcases hsettles with ⟨hnone, hstands⟩ | ⟨hsome, hbarred⟩
    · exact .inl ⟨t', Prod.ext rfl hnone, hstands⟩
    · obtain ⟨e, he⟩ := Option.ne_none_iff_exists'.mp hsome
      exact .inr ⟨t', e, Prod.ext rfl he, hbarred⟩

theorem ofLocation_take (l : Location) :
    (⟨.absolute, l.take l.length⟩ : FilePath) = .ofLocation l := by
  rw [List.take_length]
  rfl

/-- When the directory itself can be made, nothing above it is looked at. -/
theorem makeDirs_of_ok (h : t.ensureDir [] (.ofLocation l) = .ok t') :
    t.makeDirs [] (.ofLocation l) = (t', none) := by
  have hpath := ofLocation_take l
  show t.makeDirsAt [] .absolute l l.length = (t', none)
  cases hlength : l.length with
  | zero =>
    rw [hlength, List.take_zero] at hpath
    rw [makeDirsAt]
    simp only [hpath, h]
  | succ n =>
    rw [hlength] at hpath
    rw [makeDirsAt]
    simp only [hpath, h]

/-- Only a missing directory above is made. -/
theorem makeDirs_of_error {e : OsError} (h : t.ensureDir [] (.ofLocation l) = .error e)
    (he : e.cause ≠ .notFound) : t.makeDirs [] (.ofLocation l) = (t, some e) := by
  have hpath := ofLocation_take l
  show t.makeDirsAt [] .absolute l l.length = (t, some e)
  cases hlength : l.length with
  | zero =>
    rw [hlength, List.take_zero] at hpath
    rw [makeDirsAt]
    simp only [hpath, h]
  | succ n =>
    rw [hlength] at hpath
    rw [makeDirsAt]
    simp only [hpath, h, if_neg he]

/-- Where the directory stands, nothing is made. -/
theorem makeDirs_of_directory (hl : parentPart ∉ l) (h : t.at? l = .ok .directory) :
    t.makeDirs [] (.ofLocation l) = (t, none) :=
  makeDirs_of_ok (ensureDir_of_directory hl h)

/-- Where the directory cannot be made, nothing is made. -/
theorem makeDirs_of_barred (hl : parentPart ∉ l) (h : Barred t l) :
    ∃ e, t.makeDirs [] (.ofLocation l) = (t, some e) := by
  rcases ensureDir_cases hl t with ⟨t', -, -, hnot⟩ | ⟨e, herror, hcause, -⟩ |
    ⟨e, herror, hcause, hmissing⟩
  · exact absurd h hnot
  · exact ⟨e, makeDirs_of_error herror hcause⟩
  · -- below a missing directory everything is missing
    rcases List.eq_nil_or_concat' l with rfl | ⟨q, p, rfl⟩
    · exact absurd (at?_nil t) h.2
    · obtain ⟨hq, hp⟩ := parentPart_notMem_concat.mp hl
      have hconcat := at?_concat (t := t) hq hp
      rw [List.dropLast_concat] at hmissing
      rw [hmissing] at hconcat
      exact absurd hconcat h.1

/-! ## Writing a file below new directories -/

theorem writeBelow_concat (q : Location) (p : Text) :
    t.writeBelow [] (.ofLocation (q ++ [p])) content =
      match t.makeDirs [] (.ofLocation q) with
      | (t', some e) => (t', some e)
      | (t', none) =>
        match t'.write [] (.ofLocation (q ++ [p])) content with
        | .ok t'' => (t'', none)
        | .error e => (t', some e) := by
  have hparent : (FilePath.ofLocation (q ++ [p])).parent = .ofLocation q := by
    simp [FilePath.parent, FilePath.ofLocation]
  rw [← hparent]
  rfl

/-- The root is never written. -/
theorem writeBelow_root (t : FileTree) (content : Bytes) :
    ∃ e, t.writeBelow [] (.ofLocation []) content = (t, some e) := ⟨_, rfl⟩

/-- What is written where it stands changes nothing. -/
theorem set_of_node? (hl : l ≠ []) (h : t.node? l = some n) : t.set l n = t := by
  have hsame : ∀ entries : List (Location × Node), entries.lookup l = some n →
      setIn l n entries = entries := by
    intro entries
    induction entries with
    | nil =>
      intro h
      cases h
    | cons entry entries ih =>
      obtain ⟨k, m⟩ := entry
      intro hlookup
      rw [List.lookup_cons] at hlookup
      rw [setIn]
      by_cases hk : k = l
      · subst hk
        rw [beq_self_eq_true] at hlookup
        cases hlookup
        rw [if_pos rfl]
      · rw [beq_eq_false_iff_ne.mpr (Ne.symm hk)] at hlookup
        rw [if_neg hk, ih hlookup]
  rw [node?, if_neg (by simpa using hl)] at h
  rw [set, hsame _ h]

/-- What was written stands there. -/
theorem at?_of_write (h : t.write [] (.ofLocation l) content = .ok t') :
    t'.at? l = .ok (.file content) := by
  have hread := read_of_write h
  unfold read at hread
  show t'.stat [] (.ofLocation l) = _
  cases hstat : t'.stat [] (.ofLocation l) with
  | error c => simp [hstat] at hread
  | ok n =>
    cases n with
    | directory => simp [hstat] at hread
    | file content' =>
      simp only [hstat, Except.ok.injEq] at hread
      rw [hread]

/-- What cannot be written into a directory that stands can never be written there. -/
theorem blocked_of_write_error (hq : parentPart ∉ q) (hp : p ≠ parentPart)
    (hat : t.at? q = .ok .directory) {e : OsError}
    (h : t.write [] (.ofLocation (q ++ [p])) content = .error e) : Blocked t (q ++ [p]) := by
  have hconcat := at?_concat (t := t) hq hp
  rw [write, place_concat hq hp, hat] at h
  rw [hat] at hconcat
  dsimp only at h hconcat
  by_cases hlong : isTooLong p = true
  · rw [if_pos hlong] at hconcat
    exact ⟨by simp [hconcat], by simp [hconcat]⟩
  · rw [if_neg hlong] at h hconcat
    cases hnode : t.node? (q ++ [p]) with
    | none => simp [hnode] at h
    | some n =>
      cases n with
      | file content' => simp [hnode] at h
      | directory =>
        rw [hnode] at hconcat
        exact ⟨by simp [hconcat], by simp [hconcat]⟩

/-- **Writing settles a location.**  The file stands there, or no file can be written there. -/
theorem writeBelow_settles (hl : parentPart ∉ l) (t : FileTree) (content : Bytes) :
    (∃ t', t.writeBelow [] (.ofLocation l) content = (t', none) ∧
        t'.at? l = .ok (.file content)) ∨
      ∃ t' e, t.writeBelow [] (.ofLocation l) content = (t', some e) ∧ Blocked t' l := by
  rcases List.eq_nil_or_concat' l with rfl | ⟨q, p, rfl⟩
  · obtain ⟨e, he⟩ := writeBelow_root t content
    exact .inr ⟨t, e, he, by simp [at?_nil], by simp [at?_nil]⟩
  obtain ⟨hq, hp⟩ := parentPart_notMem_concat.mp hl
  rw [writeBelow_concat]
  rcases makeDirs_settles hq t with ⟨t', hmake, hstands⟩ | ⟨t', e, hmake, hbarred⟩
  · rw [hmake]
    dsimp only
    cases hwrite : t'.write [] (.ofLocation (q ++ [p])) content with
    | ok t'' => exact .inl ⟨t'', rfl, at?_of_write hwrite⟩
    | error e => exact .inr ⟨t', e, rfl, blocked_of_write_error hq hp hstands hwrite⟩
  · rw [hmake]
    obtain ⟨hmissing, hnone⟩ := hbarred.at?_concat hq hp
    exact .inr ⟨t', e, rfl, hmissing, fun _ => hnone _⟩

/-- **Writing again what is there** changes nothing and succeeds. -/
theorem writeBelow_of_file (hl : parentPart ∉ l) (h : t.at? l = .ok (.file content)) :
    t.writeBelow [] (.ofLocation l) content = (t, none) := by
  rcases List.eq_nil_or_concat' l with rfl | ⟨q, p, rfl⟩
  · cases h
  have hnode := ((at?_eq_ok_iff hl).mp h).2
  obtain ⟨hq, hp⟩ := parentPart_notMem_concat.mp hl
  rw [at?_concat hq hp] at h
  rw [writeBelow_concat]
  cases hat : t.at? q with
  | error c => simp [hat] at h
  | ok n =>
    cases n with
    | file content' => simp [hat] at h
    | directory =>
      have hlong : ¬ isTooLong p = true := by
        intro hlong
        simp [hat, hlong] at h
      rw [makeDirs_of_directory hq hat]
      dsimp only
      rw [write, place_concat hq hp, hat]
      simp only [if_neg hlong, hnode, set_of_node? (by simp) hnode]

/-- **Writing again where no file can be written** changes nothing and fails. -/
theorem writeBelow_of_blocked (hl : parentPart ∉ l) (h : Blocked t l) (content : Bytes) :
    ∃ e, t.writeBelow [] (.ofLocation l) content = (t, some e) := by
  rcases List.eq_nil_or_concat' l with rfl | ⟨q, p, rfl⟩
  · exact writeBelow_root t content
  obtain ⟨hq, hp⟩ := parentPart_notMem_concat.mp hl
  have hconcat := at?_concat (t := t) hq hp
  rw [writeBelow_concat]
  by_cases hat : t.at? q = .ok .directory
  · rw [hat] at hconcat
    dsimp only at hconcat
    rw [makeDirs_of_directory hq hat]
    dsimp only
    rw [write, place_concat hq hp, hat]
    dsimp only
    by_cases hlong : isTooLong p = true
    · rw [if_pos hlong]
      exact ⟨_, rfl⟩
    · rw [if_neg hlong] at hconcat ⊢
      -- only a directory is left to be in the way
      cases hnode : t.node? (q ++ [p]) with
      | none =>
        rw [hnode] at hconcat
        exact absurd hconcat h.1
      | some node =>
        rw [hnode] at hconcat
        cases node with
        | file content' => exact absurd hconcat (h.2 content')
        | directory =>
          simp only [hnode]
          exact ⟨_, rfl⟩
  · have hbarred : Barred t q := by
      refine ⟨fun hmissing => ?_, hat⟩
      rw [hmissing] at hconcat
      exact h.1 hconcat
    obtain ⟨e, he⟩ := makeDirs_of_barred hq hbarred
    exact ⟨e, by rw [he]⟩

end FileTree

end Literate
