import Mathlib
import Literate.Digest.ParseCache

/-!
# The cache keeps the outlines that were asked for last

Outlines are asked for any number of times, and the cache is cleared now and then.  What it holds is at
every moment a function of that history: the last distinct texts that could be read, as many as there
is room for, in the order in which they were asked for last.  A text that is among them gets the
outline it got before, as the same object; any other is read again.

* `ParseCache.lastRead`: the texts that are kept after some calls.
* `ParseCache.Objects`: the cache with a number for each outline that was made, which tells two outlines
  of one text apart; `ParseCache.Objects.forget_get` says that it is the cache but for the numbers.
* `ParseCache.Objects.Holds.get`: what one call keeps.
* `ParseCache.get_after`: what the cache holds and gives after any calls.
-/

namespace Literate.ParseCache

open Text

/-! ## Last distinct members -/

section

variable {α : Type} [DecidableEq α]

/-- A member that comes again goes to the end. -/
theorem dedup_concat (l : List α) (a : α) : (l ++ [a]).dedup = l.dedup.filter (· ≠ a) ++ [a] := by
  induction l with
  | nil => rfl
  | cons b l ih =>
    rw [List.cons_append]
    by_cases hb : b ∈ l
    · rw [List.dedup_cons_of_mem hb, List.dedup_cons_of_mem (by simp [hb]), ih]
    · rw [List.dedup_cons_of_notMem hb]
      by_cases hba : b = a
      · rw [List.dedup_cons_of_mem (by simp [hba]), ih, List.filter_cons_of_neg (by simp [hba])]
      · rw [List.dedup_cons_of_notMem (by simp [hb, hba]), ih,
          List.filter_cons_of_pos (by simp [hba]), List.cons_append]

/-- A list without repetition loses at most one member with a value. -/
theorem length_filter_ne {l : List α} (hl : l.Nodup) (a : α) :
    l.length - 1 ≤ (l.filter (· ≠ a)).length := by
  have herase : l.erase a = l.filter (· ≠ a) := by
    rw [hl.erase_eq_filter]
    exact List.filter_congr fun b _ => by rw [decide_not, ← beq_eq_decide]; rfl
  exact herase ▸ List.le_length_erase

/-- The last members once one of them was put at the end. -/
theorem rtake_touched {l : List α} (hl : l.Nodup) (a : α) (n : ℕ) :
    ((l.rtake n).filter (· ≠ a) ++ [a]).rtake n = (l.filter (· ≠ a) ++ [a]).rtake n := by
  rcases Nat.le_total l.length n with h | h
  · have hall : l.rtake n = l := by rw [List.rtake, Nat.sub_eq_zero_of_le h, List.drop_zero]
    rw [hall]
  · -- what is left out stands in front of enough members
    have hcut : l = l.take (l.length - n) ++ l.rtake n := (List.take_append_drop ..).symm
    have hlong : n ≤ ((l.rtake n).filter (· ≠ a) ++ [a]).length := by
      have hle := length_filter_ne (hl.sublist (List.drop_sublist (l.length - n) l)) a
      rw [List.length_drop] at hle
      rw [List.length_append, List.length_singleton, List.rtake]
      omega
    conv_rhs => rw [hcut, List.filter_append, List.append_assoc]
    generalize (l.rtake n).filter (· ≠ a) ++ [a] = kept at hlong ⊢
    rw [List.rtake, List.rtake, List.length_append,
      show ∀ k, k + kept.length - n = k + (kept.length - n) by omega, List.drop_append]
    simp

end

/-! ## Calls -/

/-- What a cache is asked. -/
inductive Call
  | get (t : Text)
  | clear
  deriving DecidableEq

/-- The texts with an outline that were asked for since the cache was cleared last, in order. -/
def readSince (ts : List Text) : Call → List Text
  | .get t => if (Outline.parse t).toOption.isSome then ts ++ [t] else ts
  | .clear => []

/-- The texts that are kept after some calls: the last distinct ones that could be read. -/
def lastRead (capacity : ℕ) (calls : List Call) : List Text :=
  (calls.foldl readSince []).dedup.rtake capacity

theorem lastRead_clear (n : ℕ) (calls : List Call) : lastRead n (calls ++ [.clear]) = [] := by
  simp [lastRead, readSince]

theorem lastRead_get_error {t : Text} {e : ParseError} (he : Outline.parse t = .error e) (n : ℕ)
    (calls : List Call) : lastRead n (calls ++ [.get t]) = lastRead n calls := by
  simp [lastRead, readSince, he, Except.toOption]

theorem lastRead_get_ok {t : Text} {o : Outline} (ho : Outline.parse t = .ok o) (n : ℕ)
    (calls : List Call) :
    lastRead n (calls ++ [.get t]) = ((lastRead n calls).filter (· ≠ t) ++ [t]).rtake n := by
  have hread : (calls ++ [Call.get t]).foldl readSince [] = calls.foldl readSince [] ++ [t] := by
    simp [readSince, ho, Except.toOption]
  rw [lastRead, hread, dedup_concat, lastRead, rtake_touched (List.nodup_dedup _)]

/-- The texts that are kept were asked for. -/
theorem get_mem_of_lastRead {n : ℕ} {calls : List Call} {u : Text} (hu : u ∈ lastRead n calls) :
    .get u ∈ calls := by
  have hread : u ∈ calls.foldl readSince [] := List.mem_dedup.mp (List.mem_of_mem_drop hu)
  clear hu
  induction calls using List.reverseRecOn with
  | nil => cases hread
  | append_singleton calls call ih =>
    rw [List.foldl_append, List.foldl_cons, List.foldl_nil] at hread
    rw [List.mem_append, List.mem_singleton]
    cases call with
    | clear => cases hread
    | get t =>
      rw [readSince] at hread
      split_ifs at hread
      · rcases List.mem_append.mp hread with h | h
        · exact .inl (ih h)
        · exact .inr (by rw [List.mem_singleton.mp h])
      · exact .inl (ih hread)

variable {κ : Type} [DecidableEq κ]

/-- What a call leaves of the cache. -/
def answer (key : Text → κ) (c : ParseCache κ) : Call → ParseCache κ
  | .get t => (c.get key t).2
  | .clear => c.clear

/-- The cache after some calls. -/
def after (key : Text → κ) (capacity : ℕ) (calls : List Call) : ParseCache κ :=
  calls.foldl (answer key) (empty capacity)

/-! ## Outlines as objects -/

/-- An outline that was made, with its number. -/
structure Made where
  outline : Outline
  number : ℕ
  deriving DecidableEq, Repr

/-- A cache that tells outlines apart; `count` is the number of outlines made so far. -/
structure Objects (κ : Type) where
  capacity : ℕ
  entries : List (κ × Made)
  count : ℕ

namespace Objects

/-- The cache that holds nothing. -/
def empty (capacity : ℕ) : Objects κ := ⟨capacity, [], 0⟩

/-- The outline of a document, from the cache or made and put there. -/
def get (key : Text → κ) (c : Objects κ) (t : Text) : Except ParseError Made × Objects κ :=
  match c.entries.lookup (key t) with
  | some x => (.ok x, { c with entries := touch (key t) x c.entries })
  | none =>
    match Outline.parse t with
    | .error e => (.error e, c)
    | .ok o =>
      (.ok ⟨o, c.count⟩,
        { c with
          entries := trim c.capacity (touch (key t) ⟨o, c.count⟩ c.entries)
          count := c.count + 1 })

/-- What a call leaves of the cache. -/
def answer (key : Text → κ) (c : Objects κ) : Call → Objects κ
  | .get t => (c.get key t).2
  | .clear => { c with entries := [] }

/-- The cache after some calls. -/
def after (key : Text → κ) (capacity : ℕ) (calls : List Call) : Objects κ :=
  calls.foldl (answer key) (empty capacity)

/-- The cache without the numbers. -/
def forget (c : Objects κ) : ParseCache κ :=
  ⟨c.capacity, c.entries.map fun e => (e.1, e.2.outline)⟩

/-- The keys from the least to the most recently used. -/
def keys (c : Objects κ) : List κ := c.entries.map Prod.fst

variable {key : Text → κ} {n : ℕ} {calls : List Call} {c : Objects κ} {t : Text}

/-! ### Without the numbers -/

theorem lookup_forget (c : Objects κ) (k : κ) :
    c.forget.entries.lookup k = (c.entries.lookup k).map Made.outline := by
  unfold forget
  induction c.entries with
  | nil => rfl
  | cons e entries ih =>
    rw [List.map_cons, List.lookup_cons, List.lookup_cons]
    cases k == e.1 with
    | true => rfl
    | false => exact ih

theorem touch_forget (k : κ) (x : Made) (entries : List (κ × Made)) :
    touch k x.outline (entries.map fun e => (e.1, e.2.outline)) =
      (touch k x entries).map fun e => (e.1, e.2.outline) := by
  rw [touch, touch, List.map_append, List.filter_map]
  rfl

/-- Without the numbers a call of the cache of objects is a call of the cache. -/
theorem forget_get (c : Objects κ) (t : Text) :
    (c.forget.get key t).1.map Found.outline = (c.get key t).1.map Made.outline ∧
      (c.forget.get key t).2 = (c.get key t).2.forget := by
  unfold ParseCache.get Objects.get
  rw [lookup_forget]
  cases c.entries.lookup (key t) with
  | some x => exact ⟨rfl, congrArg (ParseCache.mk _) (touch_forget _ x _)⟩
  | none =>
    cases Outline.parse t with
    | error e => exact ⟨rfl, rfl⟩
    | ok o =>
      refine ⟨rfl, congrArg (ParseCache.mk _) ?_⟩
      have htouch := touch_forget (key t) ⟨o, c.count⟩ c.entries
      simp only [forget, trim] at htouch ⊢
      rw [htouch, List.length_map, List.map_drop]

theorem forget_after (key : Text → κ) (n : ℕ) (calls : List Call) :
    (after key n calls).forget = ParseCache.after key n calls := by
  induction calls using List.reverseRecOn with
  | nil => rfl
  | append_singleton calls call ih =>
    simp only [after, ParseCache.after, List.foldl_append, List.foldl_cons, List.foldl_nil] at ih ⊢
    rw [← ih]
    cases call with
    | get t => exact (forget_get _ t).2.symm
    | clear => rfl

/-! ### What one call keeps -/

theorem mem_of_lookup {entries : List (κ × Made)} {k : κ} {x : Made}
    (h : entries.lookup k = some x) : (k, x) ∈ entries := by
  obtain ⟨before, after, rfl, -⟩ := List.lookup_eq_some_iff.mp h
  simp

theorem notMem_keys_of_lookup {k : κ} (h : c.entries.lookup k = none) : k ∉ c.keys := by
  rintro hk
  obtain ⟨e, he, rfl⟩ := List.mem_map.mp hk
  simpa using List.lookup_eq_none_iff.mp h e he

theorem keys_touch (k : κ) (x : Made) (entries : List (κ × Made)) :
    (touch k x entries).map Prod.fst = (entries.map Prod.fst).filter (· ≠ k) ++ [k] := by
  rw [touch, List.map_append, List.filter_map]
  rfl

/-- Texts with different keys are told apart by them. -/
theorem filter_map_key {ts : List Text} (hkey : ∀ u ∈ ts, key u = key t → u = t) :
    (ts.map key).filter (· ≠ key t) = (ts.filter (· ≠ t)).map key := by
  rw [List.filter_map]
  refine congrArg (List.map key) (List.filter_congr fun u hu => ?_)
  rw [Function.comp_apply, decide_eq_decide, not_iff_not]
  exact ⟨hkey u hu, congrArg key⟩

/-- The cache after some calls: the keys of the texts that are kept, each with an outline of its own
text that was made before. -/
structure Holds (key : Text → κ) (n : ℕ) (calls : List Call) (c : Objects κ) : Prop where
  capacity_eq : c.capacity = n
  keys_eq : c.keys = (lastRead n calls).map key
  outline : ∀ e ∈ c.entries,
    ∃ t, .get t ∈ calls ∧ key t = e.1 ∧ Outline.parse t = .ok e.2.outline
  older : ∀ e ∈ c.entries, e.2.number < c.count

namespace Holds

omit [DecidableEq κ] in
theorem empty (key : Text → κ) (n : ℕ) : Holds key n [] (empty n) :=
  ⟨rfl, by simp [Objects.empty, Objects.keys, lastRead, List.rtake], by simp [Objects.empty],
    by simp [Objects.empty]⟩

omit [DecidableEq κ] in
theorem clear (h : Holds key n calls c) :
    Holds key n (calls ++ [.clear]) { c with entries := [] } := by
  refine ⟨h.capacity_eq, ?_, by simp, by simp⟩
  rw [lastRead_clear]
  rfl

omit [DecidableEq κ] in
theorem mem_keys_iff (h : Holds key n calls c) (hkey : ∀ u, .get u ∈ calls → key u = key t → u = t) :
    key t ∈ c.keys ↔ t ∈ lastRead n calls := by
  rw [h.keys_eq, List.mem_map]
  constructor
  · rintro ⟨u, hu, hk⟩
    rwa [hkey u (get_mem_of_lastRead hu) hk] at hu
  · exact fun ht => ⟨t, ht, rfl⟩

/-- The keys with the one of a text put at the end. -/
theorem keys_touched (h : Holds key n calls c)
    (hkey : ∀ u, .get u ∈ calls → key u = key t → u = t) (x : Made) :
    (touch (key t) x c.entries).map Prod.fst =
      ((lastRead n calls).filter (· ≠ t) ++ [t]).map key := by
  have hkeys : c.entries.map Prod.fst = (lastRead n calls).map key := h.keys_eq
  rw [keys_touch, hkeys, filter_map_key fun u hu => hkey u (get_mem_of_lastRead hu), List.map_append]
  rfl

omit [DecidableEq κ] in
theorem outline_mono (h : Holds key n calls c) (call : Call) {e : κ × Made} (he : e ∈ c.entries) :
    ∃ t, .get t ∈ calls ++ [call] ∧ key t = e.1 ∧ Outline.parse t = .ok e.2.outline := by
  obtain ⟨u, hu, hcase⟩ := h.outline e he
  exact ⟨u, List.mem_append_left _ hu, hcase⟩

/-- A text that is kept has its entry put at the end. -/
theorem hit (h : Holds key n calls c) (hkey : ∀ u, .get u ∈ calls → key u = key t → u = t) {x : Made}
    (hx : (key t, x) ∈ c.entries) :
    Outline.parse t = .ok x.outline ∧
      Holds key n (calls ++ [.get t]) { c with entries := touch (key t) x c.entries } := by
  have ho : Outline.parse t = .ok x.outline := by
    obtain ⟨u, hu, hk, ho⟩ := h.outline _ hx
    rwa [hkey u hu hk] at ho
  have hmem : ∀ e ∈ touch (key t) x c.entries, e ∈ c.entries := by
    intro e he
    rcases List.mem_append.mp he with he | he
    · exact List.mem_of_mem_filter he
    · rwa [List.mem_singleton.mp he]
  refine ⟨ho, h.capacity_eq, ?_, fun e he => h.outline_mono _ (hmem e he),
    fun e he => h.older e (hmem e he)⟩
  -- the text is among those that are kept, so there is no need to drop one
  have ht : t ∈ lastRead n calls := (h.mem_keys_iff hkey).mp (List.mem_map_of_mem hx)
  have hroom : ((lastRead n calls).filter (· ≠ t) ++ [t]).length ≤ n := by
    have hlt : ((lastRead n calls).filter (· ≠ t)).length < (lastRead n calls).length :=
      List.length_filter_lt_length_iff_exists.mpr ⟨t, ht, by simp⟩
    have hle : (lastRead n calls).length ≤ n := by
      rw [lastRead, List.rtake, List.length_drop]
      omega
    rw [List.length_append, List.length_singleton]
    omega
  rw [lastRead_get_ok ho, List.rtake, Nat.sub_eq_zero_of_le hroom, List.drop_zero]
  exact h.keys_touched hkey x

/-- A text that is not kept is read, and the entries that exceed the capacity go. -/
theorem miss (h : Holds key n calls c) (hkey : ∀ u, .get u ∈ calls → key u = key t → u = t)
    {o : Outline} (ho : Outline.parse t = .ok o) :
    Holds key n (calls ++ [.get t])
      { c with
        entries := trim c.capacity (touch (key t) ⟨o, c.count⟩ c.entries)
        count := c.count + 1 } := by
  have hmem : ∀ e ∈ trim c.capacity (touch (key t) ⟨o, c.count⟩ c.entries),
      e ∈ c.entries ∨ e = (key t, ⟨o, c.count⟩) := by
    intro e he
    rcases List.mem_append.mp (List.mem_of_mem_drop he) with he | he
    · exact .inl (List.mem_of_mem_filter he)
    · exact .inr (List.mem_singleton.mp he)
  refine ⟨h.capacity_eq, ?_, fun e he => ?_, fun e he => ?_⟩
  · rw [keys, lastRead_get_ok ho, trim, List.map_drop, h.keys_touched hkey, ← List.length_map (f := Prod.fst),
      h.keys_touched hkey, h.capacity_eq, List.rtake, List.map_drop, List.length_map]
  · rcases hmem e he with he | rfl
    · exact h.outline_mono _ he
    · exact ⟨t, by simp, rfl, ho⟩
  · rcases hmem e he with he | rfl
    · exact (h.older e he).trans (Nat.lt_succ_self _)
    · exact Nat.lt_succ_self _

theorem get (h : Holds key n calls c) (hkey : ∀ u, .get u ∈ calls → key u = key t → u = t) :
    Holds key n (calls ++ [.get t]) (c.get key t).2 := by
  unfold Objects.get
  cases hlookup : c.entries.lookup (key t) with
  | some x => exact (h.hit hkey (mem_of_lookup hlookup)).2
  | none =>
    cases ho : Outline.parse t with
    | error e =>
      refine ⟨h.capacity_eq, ?_, fun e he => h.outline_mono _ he, h.older⟩
      rw [lastRead_get_error ho]
      exact h.keys_eq
    | ok o => exact h.miss hkey ho

end Holds

/-- **One call after the other**: the cache is the one of the texts that were read last. -/
theorem holds_after (hkey : Set.InjOn key {u | .get u ∈ calls}) (n : ℕ) :
    Holds key n calls (after key n calls) := by
  induction calls using List.reverseRecOn with
  | nil => exact .empty key n
  | append_singleton calls call ih =>
    have hrest : Holds key n calls (after key n calls) :=
      ih (hkey.mono fun u hu => List.mem_append_left _ hu)
    simp only [after, List.foldl_append, List.foldl_cons, List.foldl_nil] at hrest ⊢
    cases call with
    | clear => exact hrest.clear
    | get t => exact hrest.get fun u hu hk => hkey (List.mem_append_left _ hu) (by simp) hk

/-! ### The object of a text -/

/-- The object `x` is the only one that the cache has for a text, and it was made before. -/
structure Knows (key : Text → κ) (t : Text) (x : Made) (c : Objects κ) : Prop where
  unique : ∀ y, (key t, y) ∈ c.entries → y = x
  older : x.number < c.count

/-- The object that a text is given is known. -/
theorem knows_of_get (h : Holds key n calls c) {x : Made} (hx : (c.get key t).1 = .ok x) :
    Knows key t x (c.get key t).2 := by
  have hunique : ∀ {y z : Made}, (key t, y) ∈ touch (key t) z c.entries → y = z := by
    intro y z hy
    rcases List.mem_append.mp hy with hy | hy
    · simp at hy
    · simpa using hy
  unfold Objects.get at hx ⊢
  cases hlookup : c.entries.lookup (key t) with
  | some z =>
    rw [hlookup] at hx
    obtain rfl := Except.ok.inj hx
    exact ⟨fun y hy => hunique hy, h.older _ (mem_of_lookup hlookup)⟩
  | none =>
    rw [hlookup] at hx
    cases ho : Outline.parse t with
    | error e =>
      rw [ho] at hx
      cases hx
    | ok o =>
      rw [ho] at hx
      obtain rfl := Except.ok.inj hx
      exact ⟨fun y hy => hunique (List.mem_of_mem_drop hy), Nat.lt_succ_self _⟩

/-- Other texts bring no other object for this one. -/
theorem Knows.get {x : Made} (h : Knows key t x c) {u : Text} (hne : key u ≠ key t) :
    Knows key t x (c.get key u).2 := by
  have hold : ∀ {y z : Made}, (key t, y) ∈ touch (key u) z c.entries → y = x := by
    intro y z hy
    rcases List.mem_append.mp hy with hy | hy
    · exact h.unique y (List.mem_of_mem_filter hy)
    · exact absurd (congrArg Prod.fst (List.mem_singleton.mp hy)).symm hne
  unfold Objects.get
  cases c.entries.lookup (key u) with
  | some z => exact ⟨fun y hy => hold hy, h.older⟩
  | none =>
    cases Outline.parse u with
    | error e => exact h
    | ok o =>
      exact ⟨fun y hy => hold (List.mem_of_mem_drop hy), h.older.trans (Nat.lt_succ_self _)⟩

theorem Knows.foldl {x : Made} {between : List Call}
    (hbetween : ∀ u, .get u ∈ between → key u ≠ key t) (h : Knows key t x c) :
    Knows key t x (between.foldl (answer key) c) := by
  induction between generalizing c with
  | nil => exact h
  | cons call between ih =>
    refine ih (fun u hu => hbetween u (List.mem_cons_of_mem _ hu)) ?_
    cases call with
    | get u => exact h.get (hbetween u (by simp))
    | clear => exact ⟨fun y hy => (List.not_mem_nil hy).elim, h.older⟩

/-- The known object is given exactly when its text is still there. -/
theorem Knows.get_eq_iff {x : Made} (h : Knows key t x c) {o : Outline}
    (ho : Outline.parse t = .ok o) : (c.get key t).1 = .ok x ↔ key t ∈ c.keys := by
  unfold Objects.get
  cases hlookup : c.entries.lookup (key t) with
  | some y =>
    have hy := mem_of_lookup hlookup
    rw [h.unique y hy]
    exact iff_of_true rfl (List.mem_map_of_mem hy)
  | none =>
    rw [ho]
    refine iff_of_false (fun heq => ?_) (notMem_keys_of_lookup hlookup)
    -- a new object has a number of its own
    have hlt := h.older
    rw [← Except.ok.inj heq] at hlt
    exact lt_irrefl _ hlt

/-- Without the numbers the cache gives what reading gives, and says whether it was there. -/
theorem Holds.get_forget (h : Holds key n calls c)
    (hkey : ∀ u, .get u ∈ calls → key u = key t → u = t) :
    (c.forget.get key t).1 =
      (Outline.parse t).map fun o => ⟨o, decide (t ∈ lastRead n calls)⟩ := by
  unfold ParseCache.get
  rw [lookup_forget]
  cases hlookup : c.entries.lookup (key t) with
  | some x =>
    have hx := mem_of_lookup hlookup
    have ht : t ∈ lastRead n calls := (h.mem_keys_iff hkey).mp (List.mem_map_of_mem hx)
    rw [(h.hit hkey hx).1, decide_eq_true ht]
    rfl
  | none =>
    have ht : t ∉ lastRead n calls := fun ht =>
      notMem_keys_of_lookup hlookup ((h.mem_keys_iff hkey).mpr ht)
    rw [decide_eq_false ht]
    cases Outline.parse t <;> rfl

end Objects

/-! ## The cache after any calls -/

/-- A text that cannot be read leaves the cache as it is. -/
theorem get_of_error {key : Text → κ} {c : ParseCache κ} {t : Text} {e e' : ParseError}
    (he : Outline.parse t = .error e) (hget : (c.get key t).1 = .error e') :
    (c.get key t).2 = c := by
  unfold get at hget ⊢
  cases hlookup : c.entries.lookup (key t) with
  | some o =>
    rw [hlookup] at hget
    cases hget
  | none => rw [he]

/-- **The cache keeps the outlines that were asked for last.**  The texts that are asked for have
different keys.  After any calls the cache holds the keys of the last distinct texts that were read, in
the order of their last reading.  The next text gets the outline, or the error, that reading it gives;
the outline was there exactly when the text is one of them, and an error changes nothing.  With outlines
told apart it is the same cache, and a text gets the object that it got the last time exactly when it
is one of them. -/
theorem get_after (key : Text → κ) (n : ℕ) (calls : List Call) (t : Text)
    (hkey : Set.InjOn key {u | u = t ∨ .get u ∈ calls}) :
    (after key n calls).keys = (lastRead n calls).map key ∧
      ((after key n calls).get key t).1 =
        (Outline.parse t).map (fun o => ⟨o, decide (t ∈ lastRead n calls)⟩) ∧
      (∀ e, Outline.parse t = .error e → ((after key n calls).get key t).2 = after key n calls) ∧
      (Objects.after key n calls).forget = after key n calls ∧
      ((Objects.after key n calls).get key t).1.map Made.outline = Outline.parse t ∧
      ∀ o before between, Outline.parse t = .ok o → calls = before ++ .get t :: between →
        .get t ∉ between →
        (((Objects.after key n calls).get key t).1 = ((Objects.after key n before).get key t).1 ↔
          t ∈ lastRead n calls) := by
  have hforget := Objects.forget_after key n calls
  have hsame : ∀ u, .get u ∈ calls → key u = key t → u = t := fun u hu hk =>
    hkey (.inr hu) (.inl rfl) hk
  have hholds := Objects.holds_after (hkey.mono fun u hu => Or.inr hu) n
  have hget := hholds.get_forget hsame
  refine ⟨?_, hforget ▸ hget, fun e he => ?_, hforget, ?_, ?_⟩
  · rw [← hforget, ← hholds.keys_eq]
    simp [keys, Objects.keys, Objects.forget]
  · have herror : ((after key n calls).get key t).1 = .error e := by
      rw [← hforget, hget, he]
      rfl
    exact get_of_error he herror
  · rw [← (Objects.forget_get _ t).1, hget]
    cases Outline.parse t <;> rfl
  · rintro o before between ho rfl hbetween
    -- the object of the last time, which no call in between replaces
    have hbefore : Objects.Holds key n before (Objects.after key n before) :=
      Objects.holds_after (hkey.mono fun u hu => .inr (List.mem_append_left _ hu)) n
    have hfirst := hbefore.get_forget (t := t) fun u hu => hsame u (List.mem_append_left _ hu)
    have hmade : ((Objects.after key n before).get key t).1.map Made.outline = .ok o := by
      rw [← (Objects.forget_get _ t).1, hfirst, ho]
      rfl
    obtain ⟨x, hx⟩ : ∃ x, ((Objects.after key n before).get key t).1 = .ok x := by
      cases h : ((Objects.after key n before).get key t).1 with
      | error e =>
        rw [h] at hmade
        cases hmade
      | ok x => exact ⟨x, rfl⟩
    have hother : ∀ u, .get u ∈ between → key u ≠ key t := fun u hu hk =>
      hbetween (hsame u (by simp [hu]) hk ▸ hu)
    have hknows := (Objects.knows_of_get hbefore hx).foldl hother
    have hrun : between.foldl (Objects.answer key) ((Objects.after key n before).get key t).2 =
        Objects.after key n (before ++ .get t :: between) := by
      simp [Objects.after, Objects.answer]
    rw [hrun] at hknows
    rw [hx, hknows.get_eq_iff ho, hholds.mem_keys_iff hsame]

/-- There is room for two.  A text that was asked for again outlives one that was asked for before
that; the other is read again, to another object.  One document cannot be read. -/
theorem get_after_documentHash :
    let a := "```sh a\nx\n```\n".toList
    let b := "# b\n".toList
    let before : List Call := [.get "c".toList, .clear, .get a]
    let calls : List Call := before ++ [.get b, .get a, .get "```\n".toList, .get "c".toList]
    (after documentHash 2 calls).keys = [documentHash a, documentHash "c".toList] ∧
      ((Objects.after documentHash 2 calls).get documentHash a).1 =
        ((Objects.after documentHash 2 (before ++ [.get b])).get documentHash a).1 ∧
      ((Objects.after documentHash 2 calls).get documentHash b).1 ≠
        ((Objects.after documentHash 2 before).get documentHash b).1 := by
  intro a b before calls
  let texts : List Text := ["c".toList, a, b, "```\n".toList]
  have htexts : ∀ t ∈ texts, {u | u = t ∨ .get u ∈ calls} ⊆ {u | u ∈ texts} := by
    rintro t ht u (rfl | hu)
    · exact ht
    · have hread : Call.get u ∈ calls → u ∈ texts := by
        simp only [calls, before, texts, List.cons_append, List.nil_append, List.mem_cons,
          List.not_mem_nil, Call.get.injEq, reduceCtorEq]
        tauto
      exact hread hu
  have hkey : Set.InjOn documentHash {u | u ∈ texts} := by
    have hdistinct : (texts.map documentHash).Nodup := by decide +kernel
    exact fun u hu v hv => List.inj_on_of_nodup_map hdistinct hu hv
  have ha := get_after documentHash 2 calls a (hkey.mono (htexts a (by simp [texts])))
  have hb := get_after documentHash 2 calls b (hkey.mono (htexts b (by simp [texts])))
  have hlast : lastRead 2 calls = [a, "c".toList] := by decide +kernel
  rw [hlast] at ha hb
  obtain ⟨hkeys, -, -, -, -, hagain⟩ := ha
  obtain ⟨-, -, -, -, -, hgone⟩ := hb
  have hreada : Outline.parse a = .ok ⟨3, [.block ⟨1, 3, "```".toList,
      ⟨"sh".toList, some ['a'], none, [], [], false, false⟩, [['x']]⟩], [⟨1, [], .implicit⟩]⟩ := by
    decide +kernel
  have hreadb : Outline.parse b = .ok ⟨1, [], [⟨1, ['b'], .heading⟩]⟩ := by decide +kernel
  refine ⟨hkeys, (hagain _ _ [.get "```\n".toList, .get "c".toList] hreada rfl ?_).mpr ?_,
    mt (hgone _ _ [.get a, .get "```\n".toList, .get "c".toList] hreadb rfl ?_).mp ?_⟩
  all_goals decide +kernel

end Literate.ParseCache
