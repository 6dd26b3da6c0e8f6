import Mathlib
import Literate.Proofs.Outline.Stuck

/-!
# The fence structure of a document

Which lines open and close the records of a document can be said by line numbers alone: an opener is
closed by the first later line that matches it, and the next opener is the first fence line behind
that.  Reading a document finds exactly these ranges, and fails at the first opener that is not
closed in this way.

* `FirstAfter`: the first line behind another one on which a test succeeds.
* `ClosedUpTo`: the lines up to which all openers, taken greedily from the top, are closed.
* `FailsAt`: how an opener fails, and the error that reports it.
* `Record.IsRange`: what a record has to do with the lines of its document.
* `Outline.parse_fences`: what is read, and when reading fails.
-/

namespace Literate

open Text

/-- Line `n` of a document, counted from one. -/
def lineAt? (ls : List Line) : ℕ → Option Line
  | 0 => none
  | n + 1 => ls[n]?

theorem lineAt?_append {front back : List Line} (k : ℕ) :
    lineAt? (front ++ back) (front.length + k + 1) = back[k]? := by
  rw [lineAt?, List.getElem?_append_right (by omega), Nat.add_sub_cancel_left]

theorem lineAt?_append_left {front : List Line} {n : ℕ} {l : Line} (h : lineAt? front n = some l)
    (back : List Line) : lineAt? (front ++ back) n = some l := by
  cases n with
  | zero => cases h
  | succ n =>
    rw [lineAt?] at h ⊢
    rw [List.getElem?_append_left (List.getElem?_eq_some_iff.mp h).1, h]

/-! ## The first line on which a test succeeds -/

/-- Line `i` is the first one behind line `n` on which `p` succeeds, and `a` is what it gives. -/
structure FirstAfter {α : Type} (p : Line → Option α) (ls : List Line) (n i : ℕ) (a : α) :
    Prop where
  behind : n < i
  found : ∃ l, lineAt? ls i = some l ∧ p l = some a
  first : ∀ k l, n < k → k < i → lineAt? ls k = some l → p l = none

namespace FirstAfter

variable {α : Type} {p : Line → Option α} {ls front back pre post : List Line} {l : Line} {a : α}

theorem of_append (hls : ls = front ++ (pre ++ l :: post)) (hpre : ∀ m ∈ pre, p m = none)
    (hl : p l = some a) : FirstAfter p ls front.length (front.length + pre.length + 1) a := by
  subst hls
  refine ⟨by omega, ⟨l, ?_, hl⟩, ?_⟩
  · rw [lineAt?_append, List.getElem?_append_right le_rfl, Nat.sub_self, List.getElem?_cons_zero]
  · intro k m h1 h2 hm
    obtain ⟨j, rfl⟩ : ∃ j, k = front.length + j + 1 := ⟨k - front.length - 1, by omega⟩
    rw [lineAt?_append, List.getElem?_append_left (by omega)] at hm
    exact hpre m (List.mem_of_getElem? hm)

/-- The lines behind line `n` up to the first success. -/
theorem exists_append {i : ℕ} (h : FirstAfter p (front ++ back) front.length i a) :
    ∃ pre l post, back = pre ++ l :: post ∧ i = front.length + pre.length + 1 ∧
      (∀ m ∈ pre, p m = none) ∧ p l = some a := by
  obtain ⟨hlt, ⟨l, hl, ha⟩, hfirst⟩ := h
  obtain ⟨k, rfl⟩ : ∃ k, i = front.length + k + 1 := ⟨i - front.length - 1, by omega⟩
  rw [lineAt?_append] at hl
  obtain ⟨hk, rfl⟩ := List.getElem?_eq_some_iff.mp hl
  have htake : (back.take k).length = k := by rw [List.length_take]; omega
  refine ⟨back.take k, back[k], back.drop (k + 1), ?_, by rw [htake], ?_, ha⟩
  · rw [List.getElem_cons_drop, List.take_append_drop]
  · intro m hm
    obtain ⟨j, hj, rfl⟩ := List.mem_iff_getElem.mp hm
    rw [htake] at hj
    refine hfirst (front.length + j + 1) _ (by omega) (by omega) ?_
    rw [lineAt?_append, List.getElem_take, List.getElem?_eq_getElem]

end FirstAfter

/-! ## Openers taken greedily -/

/-- Openers taken greedily from the top are all closed up to line `n`, and line `n` closes the last
of them: the next opener is the first fence line behind it, and that is closed by the first line that
matches it, if this has an empty info string. -/
inductive ClosedUpTo (ls : List Line) : ℕ → Prop
  | top : ClosedUpTo ls 0
  | range {n i j f g} (h : ClosedUpTo ls n) (hopen : FirstAfter Fence.ofLine? ls n i f)
      (hclose : FirstAfter f.matching? ls i j g) (hbare : g.info = []) : ClosedUpTo ls j

/-- How the opener `f` at line `i` fails: no later line matches it, and then the opener is reported;
or the first one that does has an info string, and then that line is reported. -/
inductive FailsAt (ls : List Line) (f : Fence) (i : ℕ) : ParseError → Prop
  | unclosed (h : ∀ j l, i < j → lineAt? ls j = some l → f.matching? l = none) :
      FailsAt ls f i (.unclosed i)
  | nested {j g} (h : FirstAfter f.matching? ls i j g) (hinfo : g.info ≠ []) :
      FailsAt ls f i (.nested j i)

/-- An opener fails by the lines behind it. -/
theorem failsAt_append_iff {front back : List Line} {f : Fence} {e : ParseError} :
    FailsAt (front ++ back) f front.length e ↔ f.Fails front.length back e := by
  constructor
  · rintro (h | ⟨h, hinfo⟩)
    · refine .unclosed fun l hl => Fence.matching?_eq_none_iff.mp ?_
      obtain ⟨k, hk, rfl⟩ := List.mem_iff_getElem.mp hl
      refine h (front.length + k + 1) _ (by omega) ?_
      rw [lineAt?_append, List.getElem?_eq_getElem]
    · obtain ⟨inner, l, post, rfl, rfl, hin, hl⟩ := h.exists_append
      exact .nested (fun m hm => Fence.matching?_eq_none_iff.mp (hin m hm)) hl hinfo
  · rintro (h | ⟨hin, hl, hinfo⟩)
    · refine .unclosed fun j l hj hl => Fence.matching?_eq_none_iff.mpr (h l ?_)
      obtain ⟨k, rfl⟩ : ∃ k, j = front.length + k + 1 := ⟨j - front.length - 1, by omega⟩
      rw [lineAt?_append] at hl
      exact List.mem_of_getElem? hl
    · exact .nested (.of_append rfl (fun m hm => Fence.matching?_eq_none_iff.mpr (hin m hm)) hl)
        hinfo

/-- The opening fence of a range is closed by the first line that matches it. -/
theorem FencedLines.firstAfter_closer (g : FencedLines) {ls pre post : List Line}
    (hls : ls = pre ++ (g.lines ++ post)) :
    FirstAfter g.fence.matching? ls (pre.length + 1) (pre.length + g.height) g.closing := by
  have hsplit : ls = (pre ++ [g.opener]) ++ (g.inner ++ g.closer :: post) := by
    rw [hls]
    simp [FencedLines.lines]
  have h := FirstAfter.of_append hsplit
    (fun m hm => Fence.matching?_eq_none_iff.mpr (g.keepsOpen m hm))
    (Fence.matching?_eq_some_iff.mpr ⟨g.ends, g.closes⟩)
  rw [List.length_append, List.length_singleton,
    show pre.length + 1 + g.inner.length + 1 = pre.length + g.height by
      simp only [FencedLines.height]; omega] at h
  exact h

namespace ClosedUpTo

variable {ls : List Line}

/-- The lines up to which all openers are closed have a layout. -/
theorem exists_layout {n : ℕ} (h : ClosedUpTo ls n) :
    ∃ front back gs, ls = front ++ back ∧ front.length = n ∧
      Layout (fun _ => True) 0 front gs := by
  induction h with
  | top => exact ⟨[], ls, [], rfl, rfl, .nil⟩
  | @range n i j f g _ hopen hclose hbare ih =>
    obtain ⟨front, back, gs, rfl, rfl, hfront⟩ := ih
    obtain ⟨pre, l, post, rfl, rfl, hpre, hl⟩ := hopen.exists_append
    have hi : front.length + pre.length + 1 = (front ++ (pre ++ [l])).length := by
      simp only [List.length_append, List.length_singleton]; omega
    rw [show front ++ (pre ++ l :: post) = (front ++ (pre ++ [l])) ++ post by simp, hi] at hclose
    obtain ⟨inner, c, rest, rfl, rfl, hin, hc⟩ := hclose.exists_append
    obtain ⟨hc, hcl⟩ := Fence.matching?_eq_some_iff.mp hc
    let r : FencedLines := ⟨l, inner, c, f, g, hl,
      fun m hm => Fence.matching?_eq_none_iff.mp (hin m hm), hc, hcl, hbare⟩
    refine ⟨front ++ (pre ++ r.lines), rest, _, by simp [FencedLines.lines, r], ?_,
      hfront.append ((Layout.plain _ hpre (by simp)).append (.single _ r))⟩
    simp only [List.length_append, List.length_singleton, FencedLines.length_lines,
      FencedLines.height, r]
    omega

end ClosedUpTo

/-- Where lines are stuck, some opener taken greedily fails; `done` are lines up to which all openers
are closed and `plain` lines without a fence behind them. -/
theorem Stuck.exists_failsAt {n : ℕ} {back : List Line} {e : ParseError} (h : Stuck n back e)
    {ls : List Line} :
    ∀ done plain : List Line, ls = done ++ (plain ++ back) → n = done.length + plain.length →
      ClosedUpTo ls done.length → (∀ l ∈ plain, Fence.ofLine? l = none) →
      ∃ m i f, ClosedUpTo ls m ∧ FirstAfter Fence.ofLine? ls m i f ∧ FailsAt ls f i e := by
  induction h with
  | @line n l back e hl rest ih =>
    intro done plain hls hn hdone hplain
    refine ih done (plain ++ [l]) (by rw [hls]; simp) ?_ hdone ?_
    · rw [List.length_append, List.length_singleton]
      omega
    · intro m hm
      rcases List.mem_append.mp hm with hm | hm
      · exact hplain m hm
      · rw [List.mem_singleton.mp hm, hl]
  | @range n back e g rest ih =>
    intro done plain hls hn hdone hplain
    have hlen : (done ++ (plain ++ g.lines)).length = (done ++ plain).length + g.height := by
      rw [List.length_append, List.length_append, List.length_append, FencedLines.length_lines,
        Nat.add_assoc]
    have hopen := FirstAfter.of_append hls hplain g.opens
    have hsplit : ls = (done ++ plain) ++ (g.lines ++ back) := by rw [hls, List.append_assoc]
    have hclose := g.firstAfter_closer hsplit
    rw [← hlen, List.length_append] at hclose
    refine ih (done ++ (plain ++ g.lines)) [] (by rw [hls]; simp) ?_
      (.range hdone hopen hclose g.bare) (by simp)
    rw [hlen, List.length_append, List.length_nil]
    omega
  | @fails n l back f e hl h =>
    intro done plain hls hn hdone hplain
    have hfront : (done ++ (plain ++ [l])).length = done.length + plain.length + 1 := by
      simp only [List.length_append, List.length_singleton]
      omega
    have hfail : FailsAt ((done ++ (plain ++ [l])) ++ back) f (done.length + plain.length + 1) e := by
      rw [← hfront, failsAt_append_iff, hfront, ← hn]
      exact h
    refine ⟨_, _, f, hdone, .of_append hls hplain hl, ?_⟩
    rw [hls]
    simpa using hfail

/-- Where an opener taken greedily fails, lines are stuck. -/
theorem FailsAt.stuck {ls : List Line} {m i : ℕ} {f : Fence} {e : ParseError}
    (h : FailsAt ls f i e) (hclosed : ClosedUpTo ls m)
    (hopen : FirstAfter Fence.ofLine? ls m i f) : Stuck 0 ls e := by
  obtain ⟨front, back, gs, rfl, rfl, hfront⟩ := hclosed.exists_layout
  obtain ⟨pre, l, post, rfl, rfl, hpre, hl⟩ := hopen.exists_append
  have hi : front.length + pre.length + 1 = (front ++ (pre ++ [l])).length := by
    simp only [List.length_append, List.length_singleton]; omega
  rw [show front ++ (pre ++ l :: post) = (front ++ (pre ++ [l])) ++ post by simp, hi,
    failsAt_append_iff, ← hi] at h
  refine hfront.append_stuck ((Layout.plain (P := fun _ => True) _ hpre (by simp)).append_stuck
    (.fails hl ?_))
  rwa [Nat.zero_add]

/-! ## What is read -/

namespace Record

/-- What a record has to do with the lines of its document: it goes from a fence line `f` to the
first later line that matches it, `g`, whose info string is empty; it is an output region exactly
when the info string of `f` is `output`; the body of a block are the lines strictly between, each
without at most as many leading spaces as the opener has. -/
structure IsRange (ls : List Line) (r : Record) (f g : Fence) : Prop where
  opens : ∃ l, lineAt? ls r.startLine = some l ∧ Fence.ofLine? l = some f
  closes : FirstAfter f.matching? ls r.startLine r.endLine g
  bare : g.info = []
  output_iff : (∃ q, r = .output q) ↔ f.info = outputInfo
  block : ∀ b, r = .block b → b.fence = f.marker ∧ b.info = Info.parse f.info ∧
    b.body = ((ls.drop b.startLine).take (b.endLine - 1 - b.startLine)).map fun l =>
      l.drop (min f.indent (l.takeWhile (· == ' ')).length)

end Record

/-- Removing at most `n` spaces from the front. -/
theorem Scan.dedent_eq (n : ℕ) (l : Line) :
    dedent n l = l.drop (min n (l.takeWhile (· == ' ')).length) := by
  induction n generalizing l with
  | zero => simp [dedent]
  | succ n ih =>
    cases l with
    | nil => simp [dedent]
    | cons c l =>
      by_cases hc : c = ' '
      · subst hc
        rw [dedent, if_pos rfl, ih, List.takeWhile_cons_of_pos (by simp), List.length_cons,
          Nat.succ_min_succ, List.drop_succ_cons]
      · rw [dedent, if_neg hc, List.takeWhile_cons_of_neg (by simp [hc]), List.length_nil,
          Nat.min_zero, List.drop_zero]

/-- The record of a fenced range has to do with the lines of the range as it should. -/
theorem FencedLines.isRange_record (g : FencedLines) {ls pre post : List Line}
    (hls : ls = pre ++ (g.lines ++ post)) :
    (g.record pre.length).IsRange ls g.fence g.closing := by
  have hbody : (ls.drop (pre.length + 1)).take (pre.length + g.height - 1 - (pre.length + 1)) =
      g.inner := by
    have hsplit : ls = (pre ++ [g.opener]) ++ (g.inner ++ (g.closer :: post)) := by
      rw [hls]; simp [FencedLines.lines]
    rw [hsplit, List.drop_left' (by simp), List.take_left' (by simp only [height]; omega)]
  refine ⟨⟨g.opener, ?_, g.opens⟩, ?_, g.bare, ?_, ?_⟩
  · rw [startLine_record, hls]
    exact lineAt?_append 0
  · rw [startLine_record, endLine_record]
    exact g.firstAfter_closer hls
  · rw [record, Scan.recordOf]
    split_ifs with hinfo <;> simp [hinfo]
  · intro b hb
    rw [record, Scan.recordOf] at hb
    split_ifs at hb
    cases hb
    refine ⟨rfl, rfl, ?_⟩
    rw [hbody]
    exact List.map_congr_left fun l _ => Scan.dedent_eq g.fence.indent l

/-- What a document that can be read says of its lines: its records, in source order, are disjoint
ranges, each of them closed as it should be, and every fence line is in exactly one of them. -/
structure Outline.RecoversFences (ls : List Line) (o : Outline) : Prop where
  lineCount_eq : o.lineCount = ls.length
  disjoint : o.records.Pairwise fun r q => r.endLine < q.startLine
  within : ∀ r ∈ o.records, 1 ≤ r.startLine ∧ r.startLine < r.endLine ∧ r.endLine ≤ o.lineCount
  isRange : ∀ r ∈ o.records, ∃ f g, r.IsRange ls f g
  covers : ∀ n l f, lineAt? ls n = some l → Fence.ofLine? l = some f →
    ∃! r, r ∈ o.records ∧ r.startLine ≤ n ∧ n ≤ r.endLine

namespace Outline

theorem recoversFences_of_layout {P : Line → Prop} {ls : List Line} {gs : List (ℕ × FencedLines)}
    (h : Layout P 0 ls gs) {o : Outline} (hcount : o.lineCount = ls.length)
    (hrecords : o.records = Layout.records gs) : o.RecoversFences ls := by
  refine ⟨hcount, ?_, ?_, ?_, ?_⟩
  · rw [hrecords, Layout.records, List.pairwise_map]
    refine h.apart.2.imp fun {p q} hpq => ?_
    rw [FencedLines.startLine_record, FencedLines.endLine_record]
    omega
  · intro r hr
    rw [hrecords, Layout.mem_records_iff] at hr
    obtain ⟨p, hp, rfl⟩ := hr
    obtain ⟨pre, post, hls, hn⟩ := h.exists_split hp
    have hlen := congrArg List.length hls
    simp only [List.length_append, FencedLines.length_lines] at hlen
    rw [FencedLines.startLine_record, FencedLines.endLine_record, hcount]
    simp only [FencedLines.height] at hlen ⊢
    omega
  · intro r hr
    rw [hrecords, Layout.mem_records_iff] at hr
    obtain ⟨p, hp, rfl⟩ := hr
    obtain ⟨pre, post, hls, hn⟩ := h.exists_split hp
    rw [hn, Nat.zero_add]
    exact ⟨_, _, p.2.isRange_record (by rw [hls, List.append_assoc])⟩
  · intro n l f hl hf
    obtain ⟨k, rfl⟩ : ∃ k, n = k + 1 := by
      cases n with
      | zero => cases hl
      | succ k => exact ⟨k, rfl⟩
    obtain ⟨p, hp, hholds⟩ := h.exists_holds hl hf
    rw [Nat.zero_add] at hholds
    have hmem : p.2.record p.1 ∈ o.records := by
      rw [hrecords]
      exact Layout.mem_records_iff.mpr ⟨p, hp, rfl⟩
    refine ⟨_, ⟨hmem, Record.holds_iff.mp hholds⟩, fun q hq => ?_⟩
    exact h.apart_outline hrecords q hq.1 _ hmem _ (Record.holds_iff.mpr hq.2) hholds

/-- **The fence structure.**  What a document that can be read is read to recovers its fences, and a
document cannot be read exactly when some opener, taken greedily from the top, has no later match or
one with an info string; the first such opener is reported. -/
theorem parse_fences (t : Text) :
    (∀ o, Outline.parse t = .ok o → o.RecoversFences (lines t)) ∧
      ∀ e, Outline.parse t = .error e ↔ ∃ n i f, ClosedUpTo (lines t) n ∧
        FirstAfter Fence.ofLine? (lines t) n i f ∧ FailsAt (lines t) f i e := by
  refine ⟨fun o ho => ?_, fun e => ?_⟩
  · obtain ⟨gs, hlayout, hrecords⟩ := exists_layout ho
    obtain ⟨last, items, -, rfl⟩ := parse_eq_ok_iff.mp ho
    exact recoversFences_of_layout hlayout rfl hrecords
  · rw [parse_eq_error_iff]
    constructor
    · exact fun h => h.exists_failsAt [] [] rfl rfl .top (by simp)
    · rintro ⟨n, i, f, hclosed, hopen, hfails⟩
      exact hfails.stuck hclosed hopen

/-- An indented fence of tildes around a line of backticks, and an opener whose first match has an
info string. -/
theorem parse_fences_tildes :
    let t := "  ~~~~ sh a
   x
```output
~~~~~ 
end".toList
    let b : Block := ⟨1, 4, "~~~~".toList, ⟨"sh".toList, some ['a'], none, [], [], false, false⟩,
      [" x".toList, "```output".toList]⟩
    let o : Outline := ⟨5, [.block b], [⟨1, [], .implicit⟩]⟩
    let t' := "```
```
``` x
~~~
```` y
```".toList
    (Outline.parse t = .ok o ∧ o.RecoversFences (lines t)) ∧
      Outline.parse t' = .error (.nested 5 3) ∧ ∃ n i f, ClosedUpTo (lines t') n ∧
        FirstAfter Fence.ofLine? (lines t') n i f ∧ FailsAt (lines t') f i (.nested 5 3) := by
  intro t b o t'
  have h : Outline.parse t = .ok o := by decide +kernel
  have h' : Outline.parse t' = .error (.nested 5 3) := by decide +kernel
  exact ⟨⟨h, (parse_fences t).1 o h⟩, h', ((parse_fences t').2 _).mp h'⟩

end Outline

end Literate
