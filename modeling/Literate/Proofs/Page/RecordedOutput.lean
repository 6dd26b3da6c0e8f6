import Mathlib
import Literate.Page.Renderer
import Literate.Proofs.Action
import Literate.Proofs.Html.Reading
import Literate.Proofs.Markdown.FencedBlock

/-!
# Recorded output on a page

What a program printed is shown as it was printed, whatever it printed: on the page there is one
box, whose preformatted text is the output, and no other element.  The output passes two readers on
its way, the one of markdown and the one of markup, and is written twice, with different spellings
of the quotation marks.  Both times it is written so that the next reader finds it as it was.

* `Html.outputBox`: the box of an output.
* `Html.readFragment_boxHtml`: a box is read as itself, whichever way it is written.
* `Renderer.fragment_region`: a recorded output rendered, and what a reader of the page finds.
-/

namespace Literate

open Text

namespace Html

/-- The box of a recorded output. -/
def outputBox (content : Text) : Node :=
  .element "div".toList [("class".toList, "output".toList)]
    [.element "div".toList [("class".toList, "output-header".toList)] [.text "OUTPUT".toList],
      .element "div".toList [("class".toList, "highlight".toList)]
        [.element "pre".toList [] [.text content]]]

/-- What is written before the output. -/
def boxOpening : Text :=
  "<div class=\"output\"><div class=\"output-header\">OUTPUT</div><div class=\"highlight\"><pre>".toList

/-- What is written after it. -/
def boxClosing : Text := "</pre></div></div>\n".toList

/-- The box as it is written, with the spellings of the two quotation marks. -/
def boxHtml (double single content : Text) : Text :=
  boxOpening ++ escapeWith double single content ++ boxClosing

/-! ## Reading the box -/

namespace Event

/-- The start of a division with a class. -/
def startDiv (cls : Text) : Event := .start ⟨"div".toList, [("class".toList, cls)], false⟩

/-- What stands before the output. -/
def boxHead : List Event :=
  [startDiv "output".toList, startDiv "output-header".toList, .text "OUTPUT".toList,
    .stop "div".toList, startDiv "highlight".toList, .start ⟨"pre".toList, [], false⟩]

/-- What stands after it. -/
def boxTail : List Event :=
  [.stop "pre".toList, .stop "div".toList, .stop "div".toList, .text ['\n']]

/-- The start tag of a division with a class, and what follows it. -/
def divText (cls rest : Text) : Text :=
  '<' :: ("div".toList ++ ' ' :: ("class".toList ++ '=' :: '"' :: (cls ++ '"' :: '>' :: rest)))

theorem reads_divText (cls : Text) (h : '"' ∉ cls) (hplain : CharRef.unescape cls = cls)
    (rest : Text) : Reads (divText cls rest) [startDiv cls] rest := by
  have hread : Reads (divText cls rest) [startDiv (CharRef.unescape cls)] rest :=
    reads_attr (by decide) (by decide) (by decide) h rest
  rwa [hplain] at hread

theorem divText_append (cls a b : Text) : divText cls a ++ b = divText cls (a ++ b) := by
  simp [divText]

theorem reads_boxOpening (rest : Text) : Reads (boxOpening ++ rest) boxHead rest := by
  have hopening : boxOpening = divText "output".toList (divText "output-header".toList
      ("OUTPUT".toList ++ ('<' :: '/' :: ("div".toList ++ '>' ::
        divText "highlight".toList ('<' :: ("pre".toList ++ '>' :: [])))))) := by decide
  have h₁ := reads_divText "output".toList (by decide) (by decide)
  have h₂ := reads_divText "output-header".toList (by decide) (by decide)
  have h₃ := reads_divText "highlight".toList (by decide) (by decide)
  have htext : ∀ t : Text, Reads ("OUTPUT".toList ++ '<' :: t) [.text "OUTPUT".toList] ('<' :: t) :=
    fun t => reads_text (by simp) (by simp) (by simp)
  have hstop : ∀ t, Reads ('<' :: '/' :: ("div".toList ++ '>' :: t)) [.stop "div".toList] t :=
    reads_stop (by decide)
  have hpre : Reads ('<' :: ("pre".toList ++ '>' :: rest)) [.start ⟨"pre".toList, [], false⟩] rest :=
    reads_bare (by decide) (by decide) rest
  rw [hopening]
  simp only [divText_append, List.append_assoc, List.cons_append, List.nil_append]
  exact (h₁ _).trans ((h₂ _).trans ((htext _).trans ((hstop _).trans ((h₃ _).trans hpre))))

theorem reads_boxClosing : Reads boxClosing boxTail [] := by
  have hclosing : boxClosing = '<' :: '/' :: ("pre".toList ++ '>' :: '<' :: '/' :: ("div".toList ++
      '>' :: '<' :: '/' :: ("div".toList ++ '>' :: ['\n']))) := by decide
  have hpre : ∀ t, Reads ('<' :: '/' :: ("pre".toList ++ '>' :: t)) [.stop "pre".toList] t :=
    reads_stop (by decide)
  have hdiv : ∀ t, Reads ('<' :: '/' :: ("div".toList ++ '>' :: t)) [.stop "div".toList] t :=
    reads_stop (by decide)
  have htext : Reads (['\n'] ++ []) [.text ['\n']] [] := reads_text (by simp) (by simp) (by simp)
  rw [hclosing]
  exact (hpre _).trans ((hdiv _).trans ((hdiv _).trans htext))

end Event

namespace Builder

theorem foldl_text (b : Builder) (ts : List Text) :
    (ts.map Event.text).foldl step b = { b with pending := b.pending ++ ts.flatten } := by
  induction ts generalizing b with
  | nil => simp
  | cons t ts ih =>
    rw [List.map_cons, List.foldl_cons, ih]
    simp [step]

end Builder

theorem ofEvents_box {ts : List Text} {content : Text} (hts : ts.flatten = content)
    (hne : content ≠ []) :
    ofEvents (Event.boxHead ++ ts.map .text ++ Event.boxTail) =
      [outputBox content, .text ['\n']] := by
  obtain ⟨c, cs, rfl⟩ := List.exists_cons_of_ne_nil hne
  rw [ofEvents, List.foldl_append, List.foldl_append, Builder.foldl_text, hts]
  rfl

/-- **The box is read as itself**, whichever way its quotation marks are spelled. -/
theorem readFragment_boxHtml {double single : Text} (hdouble : Event.SpellsQuote double '"')
    (hsingle : Event.SpellsQuote single '\'') {content : Text} (hne : content ≠ []) :
    readFragment (boxHtml double single content) = .ok [outputBox content, .text ['\n']] := by
  have hclosing : ∀ c ∈ boxClosing.head?, c = '<' := by
    intro c hc
    rw [show boxClosing.head? = some '<' by decide] at hc
    exact (Option.some.inj hc).symm
  obtain ⟨ts, hts, hreads⟩ := Event.exists_reads_escape hdouble hsingle content hclosing
  have hall := ((Event.reads_boxOpening _).trans hreads).trans Event.reads_boxClosing
  rw [← List.append_assoc] at hall
  rw [readFragment, boxHtml, Event.ofText_of_reads hall]
  simp only [ofEvents_box hts hne]

/-! ## Writing the box -/

theorem outputHtml_eq (content : Text) :
    Fenced.outputHtml content =
      boxHtml ['&', 'q', 'u', 'o', 't', ';'] ['&', '#', 'x', '2', '7', ';'] content := rfl

theorem writeNode_text (t : Text) : writeNode false (.text t) = escapeText t := by simp [writeNode]

theorem writeNode_element (name : Text) (hvoid : isVoid name = false)
    (hverbatim : isVerbatim name = false) (attrs : Attributes) (children : List Node) :
    writeNode false (.element name attrs children) =
      '<' :: name ++ writeAttrs name attrs ++ '>' :: writeNodes false children ++
        '<' :: '/' :: name ++ ['>'] := by
  simp [writeNode, hvoid, hverbatim]

theorem writeFragment_outputBox (content : Text) :
    writeFragment [outputBox content, .text ['\n']] = boxHtml ['"'] ['\''] content := by
  have hdiv := writeNode_element "div".toList (by decide) (by decide)
  have hpre := writeNode_element "pre".toList (by decide) (by decide)
  have hopening : boxOpening =
      '<' :: "div".toList ++ writeAttrs "div".toList [("class".toList, "output".toList)] ++ '>' ::
      '<' :: "div".toList ++ writeAttrs "div".toList [("class".toList, "output-header".toList)] ++
      '>' :: escapeText "OUTPUT".toList ++ '<' :: '/' :: "div".toList ++ '>' ::
      '<' :: "div".toList ++ writeAttrs "div".toList [("class".toList, "highlight".toList)] ++
      '>' :: '<' :: "pre".toList ++ writeAttrs "pre".toList [] ++ ['>'] := by decide +kernel
  have hclosing : boxClosing = '<' :: '/' :: "pre".toList ++ '>' :: '<' :: '/' :: "div".toList ++
      '>' :: '<' :: '/' :: "div".toList ++ '>' :: escapeText ['\n'] := by decide +kernel
  rw [boxHtml, ← escapeText, hopening, hclosing]
  simp only [writeFragment, outputBox, writeNodes, hdiv, hpre, writeNode_text, List.append_assoc,
    List.cons_append, List.nil_append, List.append_nil]

/-- The elements of the box: three divisions and one element of preformatted text. -/
theorem elementsIn_outputBox (content : Text) :
    Node.elementsIn [outputBox content, .text ['\n']] =
      [("div".toList, [("class".toList, "output".toList)]),
        ("div".toList, [("class".toList, "output-header".toList)]),
        ("div".toList, [("class".toList, "highlight".toList)]), ("pre".toList, [])] := rfl

theorem pairBlocks_outputBox (content : Text) :
    pairBlocks [outputBox content, .text ['\n']] = [outputBox content, .text ['\n']] := by
  rfl

theorem embedIn_outputBox (data : Text → Option Text) (content : Text) :
    embedIn data [outputBox content, .text ['\n']] = [outputBox content, .text ['\n']] := by
  rfl

theorem imageSources_outputBox (content : Text) :
    imageSources [outputBox content, .text ['\n']] = [] := by
  rw [imageSources, elementsIn_outputBox]
  decide

end Html

/-- **Recorded output is shown as it is.**  Rendering the region of an output answers and changes
nothing, and whoever reads the answer finds one box, with the output as its preformatted text. -/
theorem Renderer.fragment_region (r : Renderer) {o : Output} (hreturn : '\r' ∉ o.payload)
    (hnul : '\x00' ∉ o.payload) (w : World) :
    ∃ html, (r.fragment o.region).perform w = (.ok html, w) ∧
      Html.readFragment html = .ok [Html.outputBox (o.payload ++ ['\n']), .text ['\n']] := by
  have hne : o.payload ++ ['\n'] ≠ [] := by simp
  have hread : Html.readFragment (Markdown.html Fenced.html o.region) =
      .ok [Html.outputBox (o.payload ++ ['\n']), .text ['\n']] := by
    rw [Markdown.html_region hreturn hnul, Html.outputHtml_eq]
    exact Html.readFragment_boxHtml (.inr Html.Event.spells_quot)
      (.inr Html.Event.spells_apostrophe) hne
  refine ⟨Html.boxHtml ['"'] ['\''] (o.payload ++ ['\n']), ?_,
    Html.readFragment_boxHtml (.inl rfl) (.inl rfl) hne⟩
  rw [fragment, Action.perform_bind, hread]
  show Action.perform (_ >>= _) w = _
  rw [Action.perform_bind, Html.pairBlocks_outputBox, Html.imageSources_outputBox]
  show (Except.ok (Html.writeFragment (r.arranged w.tree _)), w) = _
  rw [arranged, Html.pairBlocks_outputBox, Html.embedIn_outputBox, Html.writeFragment_outputBox]

/-- Front matter, a fence, tags, references, a note and quotation marks. -/
theorem Renderer.fragment_region_markup :
    let t : Text := "---\n````\n</pre><b>&lt;</b>\n[^1]: \"it's\"\n".toList
    let o : Output := .text t
    let r : Renderer := ⟨[], [], ⟨.relative, []⟩, [], []⟩
    ('\r' ∉ o.payload ∧ '\x00' ∉ o.payload) ∧
      ∃ html, (r.fragment o.region).perform (.ofTree .empty) = (.ok html, .ofTree .empty) ∧
        Html.readFragment html = .ok [Html.outputBox t, .text ['\n']] := by
  intro t o r
  have hchars : '\r' ∉ o.payload ∧ '\x00' ∉ o.payload := by decide +kernel
  have hcontent : o.payload ++ ['\n'] = t := by decide +kernel
  have h := Renderer.fragment_region r hchars.1 hchars.2 (.ofTree .empty)
  rw [hcontent] at h
  exact ⟨hchars, h⟩

end Literate
