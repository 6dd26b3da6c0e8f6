import Mathlib
import Literate.Page.Renderer
import Literate.Proofs.Action
import Literate.Proofs.Page.Pairing

/-!
# Arranging a fragment

What was read from a fragment is arranged before it is written: blocks share containers with their
outputs, and images get their contents.  Nothing is lost by that.  A page is compared with the
fragment through the page that it is without the containers; the three are related node by node, so
that every property of the comparison is an induction on the relation.

* `Html.Arranged`: a fragment, its page without the containers that were put in, and its page.
* `Html.Arranged.elements_same`, `Html.Arranged.elements_containers`: elements.
* `Html.Arranged.leaves_perm`: texts and notes.
* `Html.exists_arranged`: pairing and putting images in arranges every fragment.
* `Renderer.arranged_conserves`: what a page has of its fragment.
* `Renderer.fragment_inv`: what is written is a page of what was read.
-/

namespace Literate

open Text

namespace Html

/-! ## What arranging keeps -/

/-- Attributes in the same order with the same values, but for the source of an image. -/
def SameAttrs (name : Text) : Attributes → Attributes → Prop :=
  List.Forall₂ fun a b => a.1 = b.1 ∧ (a.2 = b.2 ∨ name = imageName ∧ a.1 = sourceName)

/-- Elements of one name with the same attributes, but for the source of an image. -/
def SameElement (x y : Text × Attributes) : Prop := x.1 = y.1 ∧ SameAttrs x.1 x.2 y.2

/-- An output is the next element among the siblings of a node. -/
def OutputFollows (ns : List Node) : Prop :=
  ∃ between output rest, ns = between ++ output :: rest ∧
    (∀ n ∈ between, n.isElement = false) ∧ output.isOutput = true

mutual

/-- The texts and notes at a node in document order. -/
def Node.leaves : Node → List Node
  | .element _ _ children => leavesIn children
  | n => [n]

/-- The texts and notes of a fragment in document order. -/
def Node.leavesIn : List Node → List Node
  | [] => []
  | n :: rest => n.leaves ++ leavesIn rest

end

/-- A fragment, its page without the containers that were put in, and its page. -/
inductive Arranged : List Node → List Node → List Node → Prop
  | nil : Arranged [] [] []
  /-- Texts and notes stay as they are. -/
  | leaf {n ns bare page} (hn : n.isElement = false) (rest : Arranged ns bare page) :
      Arranged (n :: ns) (n :: bare) (n :: page)
  /-- An element stays where it is, unless it is a block before an output. -/
  | element {name attrs attrs' children bareChildren pageChildren ns bare page}
      (hattrs : SameAttrs name attrs attrs')
      (hlone : (Node.element name attrs children).isBlock = true → ¬OutputFollows ns)
      (inside : Arranged children bareChildren pageChildren) (rest : Arranged ns bare page) :
      Arranged (.element name attrs children :: ns) (.element name attrs' bareChildren :: bare)
        (.element name attrs' pageChildren :: page)
  /-- A block and the output that follows it share a container.  What stood between them follows. -/
  | pair {block block₁ block₂ between output output₁ output₂ ns bare page}
      (hblock : block.isBlock = true ∧ block₂.isBlock = true)
      (houtput : output.isOutput = true ∧ output₂.isOutput = true)
      (hbetween : ∀ n ∈ between, n.isElement = false)
      (first : Arranged [block] [block₁] [block₂]) (second : Arranged [output] [output₁] [output₂])
      (rest : Arranged ns bare page) :
      Arranged (block :: (between ++ output :: ns)) (block₁ :: output₁ :: (between ++ bare))
        (.pairOf block₂ output₂ :: (between ++ page))

variable {ns bare page : List Node}

/-! ## Elements, texts and notes -/

theorem elementsIn_append (a b : List Node) :
    Node.elementsIn (a ++ b) = Node.elementsIn a ++ Node.elementsIn b := by
  induction a with
  | nil => rfl
  | cons n a ih => simp [Node.elementsIn, ih]

theorem leavesIn_append (a b : List Node) :
    Node.leavesIn (a ++ b) = Node.leavesIn a ++ Node.leavesIn b := by
  induction a with
  | nil => rfl
  | cons n a ih => simp [Node.leavesIn, ih]

theorem elements_of_leaf {n : Node} (h : n.isElement = false) : n.elements = [] := by
  cases n with
  | element => cases h
  | text | note => rfl

theorem elementsIn_of_leaves (h : ∀ n ∈ ns, n.isElement = false) : Node.elementsIn ns = [] := by
  induction ns with
  | nil => rfl
  | cons n ns ih =>
    obtain ⟨hn, hns⟩ := List.forall_mem_cons.mp h
    rw [Node.elementsIn, elements_of_leaf hn, ih hns, List.append_nil]

/-- The container of a block and its output, without what is in it. -/
def pairElement : Text × Attributes := ("div".toList, [("class".toList, pairClass)])

theorem elements_pairOf (block output : Node) :
    (Node.pairOf block output).elements = pairElement :: (block.elements ++ output.elements) := by
  simp [Node.pairOf, Node.elements, Node.elementsIn, pairElement]

theorem elementsIn_siblings (block output : Node) {between : List Node}
    (hbetween : ∀ n ∈ between, n.isElement = false) (rest : List Node) :
    Node.elementsIn (block :: output :: (between ++ rest)) =
      Node.elementsIn [block] ++ (Node.elementsIn [output] ++ Node.elementsIn rest) := by
  simp [Node.elementsIn, elementsIn_append, elementsIn_of_leaves hbetween]

/-- **Without its containers a page has the elements of the fragment**, in their order. -/
theorem Arranged.elements_same (h : Arranged ns bare page) :
    List.Forall₂ SameElement (Node.elementsIn ns) (Node.elementsIn bare) := by
  induction h with
  | nil => exact .nil
  | leaf hn rest ih =>
    rw [Node.elementsIn, Node.elementsIn, elements_of_leaf hn]
    exact ih
  | element hattrs hlone inside rest ihinside ihrest =>
    exact .cons ⟨rfl, hattrs⟩ (List.rel_append ihinside ihrest)
  | @pair block block₁ _ between output output₁ _ ns bare _ _ _ hbetween _ _ _ ihfirst ihsecond
      ihrest =>
    have hsource : Node.elementsIn (block :: (between ++ output :: ns)) =
        Node.elementsIn [block] ++ (Node.elementsIn [output] ++ Node.elementsIn ns) := by
      simp [Node.elementsIn, elementsIn_append, elementsIn_of_leaves hbetween]
    rw [hsource, elementsIn_siblings _ _ hbetween]
    exact List.rel_append ihfirst (List.rel_append ihsecond ihrest)

theorem elementsIn_pair (block output : Node) {between : List Node}
    (hbetween : ∀ n ∈ between, n.isElement = false) (rest : List Node) :
    Node.elementsIn (.pairOf block output :: (between ++ rest)) =
      pairElement ::
        (Node.elementsIn [block] ++ (Node.elementsIn [output] ++ Node.elementsIn rest)) := by
  simp [Node.elementsIn, elementsIn_append, elementsIn_of_leaves hbetween, elements_pairOf]

/-- **Only containers are added to the elements**, which keep their order. -/
theorem Arranged.elements_containers (h : Arranged ns bare page) :
    (Node.elementsIn bare).Sublist (Node.elementsIn page) ∧
      ∃ k, (Node.elementsIn page).Perm (List.replicate k pairElement ++ Node.elementsIn bare) := by
  induction h with
  | nil => exact ⟨.slnil, 0, .refl _⟩
  | leaf hn rest ih =>
    rw [Node.elementsIn, Node.elementsIn, elements_of_leaf hn]
    exact ih
  | element hattrs hlone inside rest ihinside ihrest =>
    obtain ⟨hsub, k, hperm⟩ := ihinside
    obtain ⟨hsub', k', hperm'⟩ := ihrest
    refine ⟨(hsub.append hsub').cons_cons _, k + k', ?_⟩
    rw [List.perm_iff_count] at hperm hperm' ⊢
    intro x
    specialize hperm x
    specialize hperm' x
    simp only [Node.elementsIn, Node.elements, List.count_append, List.count_cons,
      List.count_replicate] at hperm hperm' ⊢
    split_ifs at hperm hperm' ⊢ <;> omega
  | pair _ _ hbetween _ _ _ ihfirst ihsecond ihrest =>
    obtain ⟨hsub₁, k₁, hperm₁⟩ := ihfirst
    obtain ⟨hsub₂, k₂, hperm₂⟩ := ihsecond
    obtain ⟨hsub, k, hperm⟩ := ihrest
    rw [elementsIn_pair _ _ hbetween, elementsIn_siblings _ _ hbetween]
    refine ⟨(hsub₁.append (hsub₂.append hsub)).cons _, k₁ + k₂ + k + 1, ?_⟩
    rw [List.perm_iff_count] at hperm₁ hperm₂ hperm ⊢
    intro x
    specialize hperm₁ x
    specialize hperm₂ x
    specialize hperm x
    simp only [List.count_append, List.count_cons, List.count_replicate, beq_iff_eq]
      at hperm₁ hperm₂ hperm ⊢
    split_ifs at hperm₁ hperm₂ hperm ⊢ <;> omega

/-- **No text or note is lost or there twice.** -/
theorem Arranged.leaves_perm (h : Arranged ns bare page) :
    (Node.leavesIn page).Perm (Node.leavesIn ns) := by
  induction h with
  | nil => exact .refl _
  | leaf hn rest ih =>
    exact ih.append_left _
  | element hattrs hlone inside rest ihinside ihrest =>
    exact ihinside.append ihrest
  | @pair block _ block₂ between output _ output₂ ns _ page _ _ _ _ _ _ ihfirst ihsecond ihrest =>
    have hsource : Node.leavesIn (block :: (between ++ output :: ns)) =
        Node.leavesIn [block] ++
          (Node.leavesIn between ++ (Node.leavesIn [output] ++ Node.leavesIn ns)) := by
      simp [Node.leavesIn, leavesIn_append]
    have hpage : Node.leavesIn (.pairOf block₂ output₂ :: (between ++ page)) =
        Node.leavesIn [block₂] ++
          (Node.leavesIn [output₂] ++ (Node.leavesIn between ++ Node.leavesIn page)) := by
      simp [Node.leavesIn, leavesIn_append, Node.pairOf, Node.leaves]
    rw [hsource, hpage]
    refine ihfirst.append ?_
    refine (ihsecond.append (ihrest.append_left _)).trans ?_
    rw [← List.append_assoc, ← List.append_assoc]
    exact List.perm_append_comm.append_right _

/-! ## What pairing does -/

theorem nextOutput?_inv {after : List Node} {between : List Node} {output : Node}
    (h : nextOutput? ns = some (between, output, after)) :
    ns = between ++ output :: after ∧ (∀ n ∈ between, n.isElement = false) ∧
      output.isOutput = true := by
  induction ns generalizing between with
  | nil => cases h
  | cons n ns ih =>
    rw [nextOutput?] at h
    split_ifs at h with helement houtput
    · cases h
      exact ⟨rfl, by simp, houtput⟩
    · obtain ⟨⟨bs, o, rest⟩, hrest, heq⟩ := Option.map_eq_some_iff.mp h
      cases heq
      obtain ⟨rfl, hbs, ho⟩ := ih hrest
      exact ⟨rfl, List.forall_mem_cons.mpr ⟨by simpa using helement, hbs⟩, ho⟩

theorem not_outputFollows (h : nextOutput? ns = none) : ¬OutputFollows ns := by
  rintro ⟨between, output, rest, rfl, hbetween, houtput⟩
  have helement : output.isElement = true := by
    rw [Node.isOutput, Bool.and_eq_true] at houtput
    exact houtput.1
  induction between with
  | nil => simp [nextOutput?, helement, houtput] at h
  | cons n between ih =>
    obtain ⟨hn, hbetween⟩ := List.forall_mem_cons.mp hbetween
    rw [List.cons_append, nextOutput?, hn] at h
    exact ih (by simpa using h) hbetween

/-! ## Images -/

theorem sameAttrs_refl (name : Text) (attrs : Attributes) : SameAttrs name attrs attrs :=
  List.forall₂_same.mpr fun _ _ => ⟨rfl, .inl rfl⟩

theorem sameAttrs_set {name : Text} {attrs : Attributes} {old : Text} (hname : name = imageName)
    (h : attrs.lookup sourceName = some old) (value : Text) :
    SameAttrs name attrs (Attributes.set sourceName value attrs) := by
  induction attrs with
  | nil => cases h
  | cons a attrs ih =>
    obtain ⟨k, v⟩ := a
    rw [Attributes.set]
    split_ifs with hk
    · subst hk
      exact .cons ⟨rfl, .inr ⟨hname, rfl⟩⟩ (sameAttrs_refl name attrs)
    · have hkey : (sourceName == k) = false := by simpa using Ne.symm hk
      rw [List.lookup_cons, hkey] at h
      exact .cons ⟨rfl, .inl rfl⟩ (ih h)

theorem sameAttrs_embedAttrs (data : Text → Option Text) (name : Text) (attrs : Attributes) :
    SameAttrs name attrs (embedAttrs data name attrs) := by
  rw [embedAttrs]
  split
  · rename_i value h
    obtain ⟨src, hsrc, -⟩ := Option.bind_eq_some_iff.mp h
    rw [imageSource?] at hsrc
    split_ifs at hsrc with hname
    exact sameAttrs_set hname hsrc value
  · exact sameAttrs_refl name attrs

theorem SameAttrs.lookup_eq {name key : Text} {attrs attrs' : Attributes}
    (h : SameAttrs name attrs attrs') (hkey : key ≠ sourceName) :
    attrs'.lookup key = attrs.lookup key := by
  induction h with
  | nil => rfl
  | @cons a b attrs attrs' hab rest ih =>
    obtain ⟨k, v⟩ := a
    obtain ⟨k', v'⟩ := b
    obtain ⟨rfl, hvalue⟩ : k = k' ∧ (v = v' ∨ name = imageName ∧ k = sourceName) := hab
    rw [List.lookup_cons, List.lookup_cons, ih]
    rcases hvalue with rfl | ⟨-, rfl⟩
    · rfl
    · rw [beq_false_of_ne hkey]

/-- The images put in leave blocks and outputs what they are. -/
theorem isBlock_embed (data : Text → Option Text) (n : Node) :
    (embed data n).isBlock = n.isBlock := by
  cases n with
  | element name attrs children =>
    have hclass : (embedAttrs data name attrs).lookup ['c', 'l', 'a', 's', 's'] =
        attrs.lookup ['c', 'l', 'a', 's', 's'] :=
      (sameAttrs_embedAttrs data name attrs).lookup_eq (by decide)
    simp only [embed, Node.isBlock, Node.classes, hclass]
  | text | note => rfl

theorem isOutput_embed (data : Text → Option Text) (n : Node) :
    (embed data n).isOutput = n.isOutput := by
  cases n with
  | element name attrs children =>
    have hclass : (embedAttrs data name attrs).lookup ['c', 'l', 'a', 's', 's'] =
        attrs.lookup ['c', 'l', 'a', 's', 's'] :=
      (sameAttrs_embedAttrs data name attrs).lookup_eq (by decide)
    simp only [embed, Node.isOutput, Node.isElement, Node.classes, hclass]
  | text | note => rfl

theorem embed_of_leaf (data : Text → Option Text) {n : Node} (h : n.isElement = false) :
    embed data n = n := by
  cases n with
  | element => cases h
  | text | note => rfl

theorem embedIn_append (data : Text → Option Text) (a b : List Node) :
    embedIn data (a ++ b) = embedIn data a ++ embedIn data b := by
  induction a with
  | nil => rfl
  | cons n a ih => simp [embedIn, ih]

theorem embedIn_of_leaves (data : Text → Option Text) (h : ∀ n ∈ ns, n.isElement = false) :
    embedIn data ns = ns := by
  induction ns with
  | nil => rfl
  | cons n ns ih =>
    obtain ⟨hn, hns⟩ := List.forall_mem_cons.mp h
    rw [embedIn, embed_of_leaf data hn, ih hns]

theorem embed_pairOf (data : Text → Option Text) (block output : Node) :
    embed data (.pairOf block output) = .pairOf (embed data block) (embed data output) := by
  simp [Node.pairOf, embed, embedIn, embedAttrs, imageSource?, imageName]

/-! ## Arranging -/

/-- What is inside a node can be arranged. -/
def Arrangeable (data : Text → Option Text) : Node → Prop
  | .element _ _ children => ∃ bare, Arranged children bare (embedIn data (pairIn children))
  | _ => True

/-- A node in front of siblings that are arranged, unless it is a block before an output. -/
theorem Arranged.exists_cons {data : Text → Option Text} {n : Node} (hn : Arrangeable data n)
    (hlone : n.isBlock = true → ¬OutputFollows ns) (rest : Arranged ns bare page) :
    ∃ b, Arranged (n :: ns) (b :: bare) (embed data (pairInside n) :: page) := by
  cases n with
  | element name attrs children =>
    obtain ⟨bareChildren, hinside⟩ := hn
    exact ⟨_, .element (sameAttrs_embedAttrs data name attrs) hlone hinside rest⟩
  | text | note => exact ⟨_, .leaf rfl rest⟩

theorem exists_arranged_siblings {data : Text → Option Text} (fuel : ℕ) (hfuel : ns.length ≤ fuel)
    (h : ∀ n ∈ ns, Arrangeable data n) :
    ∃ bare, Arranged ns bare (embedIn data (pairSiblings fuel (pairEach ns))) := by
  induction fuel generalizing ns with
  | zero =>
    obtain rfl := List.eq_nil_of_length_eq_zero (Nat.le_zero.mp hfuel)
    exact ⟨[], .nil⟩
  | succ fuel ih =>
    cases ns with
    | nil => exact ⟨[], .nil⟩
    | cons n ns =>
      obtain ⟨hn, hns⟩ := List.forall_mem_cons.mp h
      rw [List.length_cons] at hfuel
      have hkept (hlone : n.isBlock = true → ¬OutputFollows ns) :
          ∃ bare, Arranged (n :: ns) bare
            (embedIn data (pairInside n :: pairSiblings fuel (pairEach ns))) := by
        obtain ⟨bare, hrest⟩ := ih (by omega) hns
        obtain ⟨b, hall⟩ := hrest.exists_cons hn hlone
        exact ⟨b :: bare, hall⟩
      rw [pairEach, pairSiblings, isBlock_pairInside, nextOutput?_pairEach]
      by_cases hblock : n.isBlock = true
      · rw [if_pos hblock]
        cases hnext : nextOutput? ns with
        | none => exact hkept fun _ => not_outputFollows hnext
        | some found =>
          obtain ⟨between, output, after⟩ := found
          obtain ⟨rfl, hbetween, houtput⟩ := nextOutput?_inv hnext
          rw [List.forall_mem_append, List.forall_mem_cons] at hns
          rw [List.length_append, List.length_cons] at hfuel
          -- the output stands alone in its container, so it is no block before another one
          obtain ⟨b₁, hfirst⟩ := Arranged.nil.exists_cons hn fun _ => not_outputFollows rfl
          obtain ⟨b₂, hsecond⟩ := Arranged.nil.exists_cons hns.2.1 fun _ => not_outputFollows rfl
          have hshorter : after.length ≤ fuel := by omega
          obtain ⟨bare, hrest⟩ := ih hshorter hns.2.2
          have hpage : embedIn data (.pairOf (pairInside n) (pairInside output) ::
              (between ++ pairSiblings fuel (pairEach after))) =
                .pairOf (embed data (pairInside n)) (embed data (pairInside output)) ::
                  (between ++ embedIn data (pairSiblings fuel (pairEach after))) := by
            rw [embedIn, embedIn_append, embed_pairOf, embedIn_of_leaves data hbetween]
          refine ⟨b₁ :: b₂ :: (between ++ bare), ?_⟩
          show Arranged _ _ (embedIn data (.pairOf (pairInside n) (pairInside output) ::
            (between ++ pairSiblings fuel (pairEach after))))
          rw [hpage]
          refine .pair ⟨hblock, ?_⟩ ⟨houtput, ?_⟩ hbetween hfirst hsecond hrest
          · rw [isBlock_embed, isBlock_pairInside, hblock]
          · rw [isOutput_embed, isOutput_pairInside, houtput]
      · rw [if_neg hblock]
        exact hkept fun h => absurd h hblock

mutual

theorem Node.arrangeable (data : Text → Option Text) : (n : Node) → Arrangeable data n
  | .element _ _ children =>
    exists_arranged_siblings children.length le_rfl (arrangeable_of_mem data children)
  | .text _ => trivial
  | .note _ _ => trivial

theorem arrangeable_of_mem (data : Text → Option Text) :
    (ns : List Node) → ∀ n ∈ ns, Arrangeable data n
  | [] => by simp
  | n :: ns => List.forall_mem_cons.mpr ⟨n.arrangeable data, arrangeable_of_mem data ns⟩

end

theorem exists_arranged (data : Text → Option Text) (ns : List Node) :
    ∃ bare, Arranged ns bare (embedIn data (pairBlocks ns)) := by
  rw [pairBlocks_eq_pairIn]
  exact exists_arranged_siblings ns.length le_rfl (arrangeable_of_mem data ns)

end Html

namespace Renderer

/-- **Arranging a fragment loses nothing.**  Without the containers of blocks and outputs its page
has the same elements in the same order, with the same attributes but for the sources of images; the
containers, each of a block and the output that was the next element, are all that was added; and
texts and notes are all still there, once each. -/
theorem arranged_conserves (r : Renderer) (tree : FileTree) (ns : List Html.Node) :
    ∃ bare, Html.Arranged ns bare (r.arranged tree ns) ∧
      List.Forall₂ Html.SameElement (Html.Node.elementsIn ns) (Html.Node.elementsIn bare) ∧
      (Html.Node.elementsIn bare).Sublist (Html.Node.elementsIn (r.arranged tree ns)) ∧
      (∃ k, (Html.Node.elementsIn (r.arranged tree ns)).Perm
        (List.replicate k Html.pairElement ++ Html.Node.elementsIn bare)) ∧
      (Html.Node.leavesIn (r.arranged tree ns)).Perm (Html.Node.leavesIn ns) := by
  obtain ⟨bare, h⟩ := Html.exists_arranged (r.imageData tree) ns
  obtain ⟨hsublist, hcontainers⟩ := h.elements_containers
  exact ⟨bare, h, h.elements_same, hsublist, hcontainers, h.leaves_perm⟩

/-! ## Rendering -/

/-- Looking at the images changes no file. -/
theorem tree_checkImages {r : Renderer} {srcs : List Text} {w w' : World} {u : Unit}
    (h : (r.checkImages srcs).perform w = (.ok u, w')) : w'.tree = w.tree := by
  induction srcs generalizing w with
  | nil =>
    cases h
    rfl
  | cons src srcs ih =>
    rw [checkImages] at h
    obtain ⟨tree, w₁, htree, hrest⟩ := Action.perform_bind_inv h
    cases htree
    obtain ⟨i, w₂, himage, hshown⟩ := Action.perform_bind_inv hrest
    obtain ⟨-, rfl⟩ := Action.perform_ofExcept_inv himage
    dsimp only at hshown
    split_ifs at hshown
    · obtain ⟨_, w₃, hlog, hlater⟩ := Action.perform_bind_inv hshown
      cases hlog
      have htree := ih hlater
      exact htree
    · exact ih hshown

/-- What is rendered is the page of what was read, arranged in the files there are, which stay as
they were. -/
theorem fragment_inv {r : Renderer} {markdown html : Text} {w w' : World}
    (h : (r.fragment markdown).perform w = (.ok html, w')) :
    ∃ ns, Html.readFragment (Markdown.html Fenced.html markdown) = .ok ns ∧
      html = Html.writeFragment (r.arranged w.tree ns) ∧ w'.tree = w.tree := by
  rw [fragment] at h
  obtain ⟨ns, w₁, hread, hrest⟩ := Action.perform_bind_inv h
  obtain ⟨hnodes, rfl⟩ := Action.perform_ofExcept_inv hread
  obtain ⟨_, w₂, hcheck, hwrite⟩ := Action.perform_bind_inv hrest
  have htree := tree_checkImages hcheck
  cases hwrite
  exact ⟨ns, hnodes, by rw [htree], htree⟩

end Renderer

end Literate
