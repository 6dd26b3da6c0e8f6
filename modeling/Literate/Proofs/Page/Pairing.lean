import Mathlib
import Literate.Page.Pairing

/-!
# Pairing in one recursion

The blocks of a fragment have their turns one after the other, in a tree that changes under them.
What comes of all turns is said here by one recursion over the fragment as it was read, from the
inside out.  A turn changes nothing but the siblings of its block, and no turn changes which keys
there are or their order; so the turns inside one node, and those behind it, do not meet.

* `pairIn`: blocks and outputs paired in one recursion.
* `Keyed.keysIn_turnIn`, `Keyed.turnIn_of_notMem`: what a turn leaves as it is.
* `Keyed.turns_inside`, `Keyed.turns_behind`: where turns take place.
* `pairBlocks_eq_pairIn`: the turns of all blocks come to the recursion.
-/

namespace Literate.Html

open Text

/-- A block and its output in their container. -/
def Node.pairOf (block output : Node) : Node :=
  .element "div".toList [("class".toList, pairClass)] [block, output]

/-- What stands between a block and its output, the output, and the nodes after it; only text and
notes may stand between. -/
def nextOutput? : List Node → Option (List Node × Node × List Node)
  | [] => none
  | n :: rest =>
    if n.isElement then if n.isOutput then some ([], n, rest) else none
    else (nextOutput? rest).map fun (between, o, after) => (n :: between, o, after)

/-- Pairs the blocks among siblings with their outputs; what stood between follows the pair. -/
def pairSiblings : Nat → List Node → List Node
  | 0, ns => ns
  | _, [] => []
  | fuel + 1, n :: rest =>
    match (if n.isBlock then nextOutput? rest else none) with
    | some (between, output, after) => .pairOf n output :: between ++ pairSiblings fuel after
    | none => n :: pairSiblings fuel rest

mutual

/-- Pairs the blocks and outputs inside a node. -/
def pairInside : Node → Node
  | .element name attrs children => .element name attrs (pairSiblings children.length (pairEach children))
  | n => n

/-- Pairs the blocks and outputs inside each node. -/
def pairEach : List Node → List Node
  | [] => []
  | n :: rest => pairInside n :: pairEach rest

end

/-- Pairs the blocks and outputs of a fragment. -/
def pairIn (ns : List Node) : List Node := pairSiblings ns.length (pairEach ns)

/-! ## What is inside the siblings -/

theorem pairInside_of_leaf {n : Node} (h : n.isElement = false) : pairInside n = n := by
  cases n with
  | element => cases h
  | text | note => rfl

theorem isElement_pairInside (n : Node) : (pairInside n).isElement = n.isElement := by
  cases n <;> rfl

theorem isBlock_pairInside (n : Node) : (pairInside n).isBlock = n.isBlock := by
  cases n <;> rfl

theorem isOutput_pairInside (n : Node) : (pairInside n).isOutput = n.isOutput := by
  cases n <;> rfl

/-- What is inside the siblings does not matter to what follows a block. -/
theorem nextOutput?_pairEach (ns : List Node) :
    nextOutput? (pairEach ns) =
      (nextOutput? ns).map fun (between, o, after) => (between, pairInside o, pairEach after) := by
  induction ns with
  | nil => rfl
  | cons n ns ih =>
    rw [pairEach, nextOutput?, nextOutput?, isElement_pairInside, isOutput_pairInside, ih]
    split_ifs with helement houtput
    · rfl
    · rfl
    · rw [pairInside_of_leaf (by simpa using helement)]
      cases nextOutput? ns <;> rfl

namespace Keyed

/-! ## Keys -/

mutual

/-- The keys at a node in document order. -/
def keys : Keyed → List Nat
  | element key _ _ children => key :: keysIn children
  | container children => keysIn children
  | text _ => []
  | note _ _ => []

/-- The keys of a fragment in document order. -/
def keysIn : List Keyed → List Nat
  | [] => []
  | n :: rest => keys n ++ keysIn rest

end

variable {n block sibling : Keyed} {ns rest between after : List Keyed} {key : Nat} {ks : List Nat}

theorem length_nodes (ns : List Keyed) : (nodes ns).length = ns.length := by
  induction ns with
  | nil => rfl
  | cons n ns ih => rw [nodes, List.length_cons, List.length_cons, ih]

theorem nodes_append (a b : List Keyed) : nodes (a ++ b) = nodes a ++ nodes b := by
  induction a with
  | nil => rfl
  | cons n a ih => simp [nodes, ih]

theorem keysIn_append (a b : List Keyed) : keysIn (a ++ b) = keysIn a ++ keysIn b := by
  induction a with
  | nil => rfl
  | cons n a ih => simp [keysIn, ih]

theorem blockKeysIn_append (a b : List Keyed) :
    blockKeysIn (a ++ b) = blockKeysIn a ++ blockKeysIn b := by
  induction a with
  | nil => rfl
  | cons n a ih => simp [blockKeysIn, ih]

@[simp] theorem isElement_head (n : Keyed) : n.head.isElement = n.node.isElement := by
  cases n <;> rfl

@[simp] theorem isBlock_head (n : Keyed) : n.head.isBlock = n.node.isBlock := by
  cases n <;> rfl

@[simp] theorem isOutput_head (n : Keyed) : n.head.isOutput = n.node.isOutput := by
  cases n <;> rfl

theorem mem_keys_of_key? (h : n.key? = some key) : key ∈ n.keys := by
  cases n with
  | element k name attrs children =>
    cases h
    exact List.mem_cons_self
  | container | text | note => cases h

theorem keys_of_leaf (h : n.node.isElement = false) : n.keys = [] := by
  cases n with
  | element | container => cases h
  | text | note => rfl

theorem keysIn_of_leaves (h : ∀ n ∈ ns, n.node.isElement = false) : keysIn ns = [] := by
  induction ns with
  | nil => rfl
  | cons n ns ih =>
    obtain ⟨hn, hns⟩ := List.forall_mem_cons.mp h
    rw [keysIn, keys_of_leaf hn, ih hns, List.append_nil]

mutual

theorem blockKeys_subset : (n : Keyed) → n.blockKeys ⊆ n.keys
  | element key name attrs children => by
    intro k hk
    rw [blockKeys, List.mem_append] at hk
    rw [keys, List.mem_cons]
    rcases hk with hk | hk
    · split_ifs at hk
      · exact .inl (List.mem_singleton.mp hk)
      · cases hk
    · exact .inr (blockKeysIn_subset children hk)
  | container children => blockKeysIn_subset children
  | text _ => List.Subset.refl _
  | note _ _ => List.Subset.refl _

theorem blockKeysIn_subset : (ns : List Keyed) → blockKeysIn ns ⊆ keysIn ns
  | [] => List.Subset.refl _
  | n :: ns => by
    intro k hk
    rw [blockKeysIn, List.mem_append] at hk
    rw [keysIn, List.mem_append]
    exact hk.imp (fun h => blockKeys_subset n h) fun h => blockKeysIn_subset ns h

end

theorem blockKeysIn_of_leaves (h : ∀ n ∈ ns, n.node.isElement = false) : blockKeysIn ns = [] := by
  have hsubset := blockKeysIn_subset ns
  rw [keysIn_of_leaves h] at hsubset
  exact List.subset_nil.mp hsubset

/-! ## A turn -/

theorem nextElement?_inv (h : nextElement? ns = some (between, sibling, after)) :
    ns = between ++ sibling :: after ∧ ∀ n ∈ between, n.node.isElement = false := by
  induction ns generalizing between with
  | nil => cases h
  | cons n ns ih =>
    rw [nextElement?, isElement_head] at h
    split_ifs at h with helement
    · cases h
      exact ⟨rfl, by simp⟩
    · obtain ⟨⟨bs, s, rest⟩, hrest, heq⟩ := Option.map_eq_some_iff.mp h
      cases heq
      obtain ⟨rfl, hbs⟩ := ih hrest
      exact ⟨rfl, List.forall_mem_cons.mpr ⟨by simpa using helement, hbs⟩⟩

/-- The output that follows a block is the next element, if that is an output. -/
theorem nextOutput?_nodes (ns : List Keyed) :
    nextOutput? (nodes ns) = (nextElement? ns).bind fun (between, sibling, after) =>
      if sibling.node.isOutput then some (nodes between, sibling.node, nodes after) else none := by
  induction ns with
  | nil => rfl
  | cons n ns ih =>
    rw [nodes, nextOutput?, nextElement?, isElement_head, ih]
    split_ifs with helement houtput
    · simp [houtput, nodes]
    · simp [houtput]
    · cases nextElement? ns with
      | none => rfl
      | some found =>
        obtain ⟨between, sibling, after⟩ := found
        cases hs : sibling.node.isOutput <;> simp [hs, nodes]

theorem pairNext_of_output (hnext : nextElement? rest = some (between, sibling, after))
    (houtput : sibling.node.isOutput = true) :
    pairNext block rest = container [block, sibling] :: (between ++ after) := by
  unfold pairNext
  rw [hnext]
  exact if_pos (by rw [isOutput_head, houtput])

theorem pairNext_of_none (h : nextOutput? (nodes rest) = none) :
    pairNext block rest = block :: rest := by
  rw [nextOutput?_nodes] at h
  unfold pairNext
  cases hnext : nextElement? rest with
  | none => rfl
  | some found =>
    obtain ⟨between, sibling, after⟩ := found
    rw [hnext, Option.bind_some] at h
    dsimp only at h ⊢
    rw [isOutput_head]
    split_ifs at h ⊢
    rfl

theorem keysIn_pairNext (block : Keyed) (rest : List Keyed) :
    keysIn (pairNext block rest) = keysIn (block :: rest) := by
  unfold pairNext
  cases hnext : nextElement? rest with
  | none => rfl
  | some found =>
    obtain ⟨between, sibling, after⟩ := found
    obtain ⟨rfl, hbetween⟩ := nextElement?_inv hnext
    dsimp only
    split_ifs
    · simp [keysIn, keys, keysIn_append, keysIn_of_leaves hbetween]
    · rfl

mutual

theorem keys_turn (key : Nat) : (n : Keyed) → (turn key n).keys = n.keys
  | element k _ _ children => congrArg (k :: ·) (keysIn_turnIn key children)
  | container children => keysIn_turnIn key children
  | text _ => rfl
  | note _ _ => rfl

/-- **A turn keeps all keys in document order.** -/
theorem keysIn_turnIn (key : Nat) : (ns : List Keyed) → keysIn (turnIn key ns) = keysIn ns
  | [] => rfl
  | n :: ns => by
    rw [turnIn]
    split_ifs
    · exact keysIn_pairNext n ns
    · rw [keysIn, keysIn, keys_turn key n, keysIn_turnIn key ns]

end

mutual

theorem turn_of_notMem : (n : Keyed) → key ∉ n.keys → turn key n = n
  | element k name attrs children, h => by
    have hchildren : key ∉ keysIn children := fun hkey => h (List.mem_cons_of_mem k hkey)
    rw [turn, turnIn_of_notMem children hchildren]
  | container children, h => by rw [turn, turnIn_of_notMem children h]
  | text _, _ => rfl
  | note _ _, _ => rfl

/-- **A turn leaves everything as it is where its block is not.** -/
theorem turnIn_of_notMem : (ns : List Keyed) → key ∉ keysIn ns → turnIn key ns = ns
  | [], _ => rfl
  | n :: ns, h => by
    rw [keysIn, List.mem_append, not_or] at h
    obtain ⟨hn, hns⟩ := h
    have hkey : n.key? ≠ some key := fun hkey => hn (mem_keys_of_key? hkey)
    rw [turnIn, if_neg hkey, turn_of_notMem n hn, turnIn_of_notMem ns hns]

end

theorem turnIn_block (h : block.key? = some key) (rest : List Keyed) :
    turnIn key (block :: rest) = pairNext block rest := by
  rw [turnIn, if_pos h]

theorem turnIn_cons_of_notMem (h : key ∉ n.keys) (rest : List Keyed) :
    turnIn key (n :: rest) = n :: turnIn key rest := by
  have hn : n.key? ≠ some key := fun hn => h (mem_keys_of_key? hn)
  rw [turnIn, if_neg hn, turn_of_notMem n h]

/-! ## Many turns -/

theorem turns_append (a b : List Nat) (ns : List Keyed) :
    turns (a ++ b) ns = turns b (turns a ns) :=
  List.foldl_append

theorem turns_cons (key : Nat) (ks : List Nat) (ns : List Keyed) :
    turns (key :: ks) ns = turns ks (turnIn key ns) := rfl

theorem keysIn_turns (ks : List Nat) (ns : List Keyed) : keysIn (turns ks ns) = keysIn ns := by
  induction ks generalizing ns with
  | nil => rfl
  | cons key ks ih => rw [turns_cons, ih, keysIn_turnIn]

/-- Turns of blocks behind a node leave the node as it is. -/
theorem turns_behind (h : ∀ key ∈ ks, key ∉ n.keys) (rest : List Keyed) :
    turns ks (n :: rest) = n :: turns ks rest := by
  induction ks generalizing rest with
  | nil => rfl
  | cons key ks ih =>
    obtain ⟨hkey, hks⟩ := List.forall_mem_cons.mp h
    rw [turns_cons, turns_cons, turnIn_cons_of_notMem hkey, ih hks]

theorem turns_behind_leaves (h : ∀ n ∈ between, n.node.isElement = false) (rest : List Keyed) :
    turns ks (between ++ rest) = between ++ turns ks rest := by
  induction between with
  | nil => rfl
  | cons n between ih =>
    obtain ⟨hn, hbetween⟩ := List.forall_mem_cons.mp h
    have hkeys : ∀ key ∈ ks, key ∉ n.keys := by
      intro key _ hmem
      rw [keys_of_leaf hn] at hmem
      cases hmem
    rw [List.cons_append, turns_behind hkeys, ih hbetween, List.cons_append]

/-- Turns of blocks inside a container leave its siblings as they are. -/
theorem turns_container (children : List Keyed) (h : ∀ key ∈ ks, key ∉ keysIn rest) :
    turns ks (container children :: rest) = container (turns ks children) :: rest := by
  induction ks generalizing children with
  | nil => rfl
  | cons key ks ih =>
    obtain ⟨hkey, hks⟩ := List.forall_mem_cons.mp h
    rw [turns_cons, turns_cons, turnIn, if_neg (by simp [key?]), turn,
      turnIn_of_notMem rest hkey, ih _ hks]

/-- Turns of blocks inside an element leave the element and its siblings as they are. -/
theorem turns_inside {k : Nat} (name : Text) (attrs : Attributes) (children : List Keyed)
    (h : ∀ key ∈ ks, key ≠ k ∧ key ∉ keysIn rest) :
    turns ks (element k name attrs children :: rest) =
      element k name attrs (turns ks children) :: rest := by
  induction ks generalizing children with
  | nil => rfl
  | cons key ks ih =>
    obtain ⟨⟨hne, hkey⟩, hks⟩ := List.forall_mem_cons.mp h
    have hself : (element k name attrs children).key? ≠ some key := by
      simpa [key?] using hne.symm
    rw [turns_cons, turns_cons, turnIn, if_neg hself, turn, turnIn_of_notMem rest hkey, ih _ hks]

/-! ## The turns of all blocks -/

/-- A node after the turns of the blocks inside. -/
def settled : Keyed → Keyed
  | element key name attrs children =>
    element key name attrs (turns (blockKeysIn children) children)
  | container children => container (turns (blockKeysIn children) children)
  | n => n

theorem keys_settled (n : Keyed) : n.settled.keys = n.keys := by
  cases n with
  | element k name attrs children =>
    rw [settled, keys, keys, keysIn_turns]
  | container children => exact keysIn_turns _ children
  | text | note => rfl

/-- The turns of the blocks at a node that is not paired with what follows it. -/
theorem turns_blockKeys (hkeys : (keysIn (n :: rest)).Nodup)
    (hlone : n.node.isBlock = true → pairNext n rest = n :: rest) :
    turns n.blockKeys (n :: rest) = n.settled :: rest := by
  rw [keysIn, List.nodup_append] at hkeys
  obtain ⟨hn, -, hrest⟩ := hkeys
  have hbehind : ∀ key ∈ n.keys, key ∉ keysIn rest := fun key hkey hmem => hrest key hkey key hmem rfl
  cases n with
  | element k name attrs children =>
    rw [keys, List.nodup_cons] at hn
    have hinside : ∀ key ∈ blockKeysIn children, key ≠ k ∧ key ∉ keysIn rest := by
      intro key hkey
      have hmem := blockKeysIn_subset children hkey
      exact ⟨fun h => hn.1 (h ▸ hmem), hbehind key (List.mem_cons_of_mem k hmem)⟩
    rw [blockKeys, turns_append, isBlock_head]
    split_ifs with hblock
    · rw [turns_cons, turnIn_block rfl, hlone hblock]
      exact turns_inside name attrs children hinside
    · exact turns_inside name attrs children hinside
  | container children =>
    exact turns_container children fun key hkey => hbehind key (blockKeysIn_subset children hkey)
  | text | note => rfl

/-- The turns of the blocks at a block and at the output that follows it. -/
theorem turns_pair (hkeys : (keysIn (block :: (between ++ sibling :: after))).Nodup)
    (hblock : block.node.isBlock = true)
    (hnext : nextElement? (between ++ sibling :: after) = some (between, sibling, after))
    (houtput : sibling.node.isOutput = true) :
    turns (block.blockKeys ++ sibling.blockKeys) (block :: (between ++ sibling :: after)) =
      container [block.settled, sibling.settled] :: (between ++ after) := by
  have hbetween := (nextElement?_inv hnext).2
  have hafter : keysIn (between ++ after) = keysIn after := by
    rw [keysIn_append, keysIn_of_leaves hbetween, List.nil_append]
  rw [keysIn, keysIn_append, keysIn_of_leaves hbetween, List.nil_append, keysIn,
    List.nodup_append, List.nodup_append] at hkeys
  obtain ⟨hown, ⟨hsibling, -, hsiblingAfter⟩, hblockRest⟩ := hkeys
  have hcontainer (children : List Keyed) :
      turns sibling.blockKeys (container children :: (between ++ after)) =
        container (turns sibling.blockKeys children) :: (between ++ after) := by
    apply turns_container
    intro key hkey hmem
    rw [hafter] at hmem
    exact hsiblingAfter key (blockKeys_subset sibling hkey) key hmem rfl
  have hfirst : turns block.blockKeys (block :: (between ++ sibling :: after)) =
      container [block.settled, sibling] :: (between ++ after) := by
    cases block with
    | element k name attrs children =>
      rw [keys, List.nodup_cons] at hown
      have hmem : ∀ key ∈ blockKeysIn children, key ∈ k :: keysIn children :=
        fun key hkey => List.mem_cons_of_mem k (blockKeysIn_subset children hkey)
      rw [blockKeys, isBlock_head, if_pos hblock, List.singleton_append, turns_cons,
        turnIn_block rfl, pairNext_of_output hnext houtput, turns_container, turns_inside]
      · rfl
      · intro key hkey
        refine ⟨fun h => hown.1 (h ▸ blockKeysIn_subset children hkey), fun hsib => ?_⟩
        rw [keysIn, keysIn, List.append_nil] at hsib
        exact hblockRest key (hmem key hkey) key (List.mem_append_left _ hsib) rfl
      · intro key hkey hrest
        rw [hafter] at hrest
        exact hblockRest key (hmem key hkey) key (List.mem_append_right _ hrest) rfl
    | container | text | note => cases hblock
  have hsecond : turns sibling.blockKeys [block.settled, sibling] =
      [block.settled, sibling.settled] := by
    rw [turns_behind, turns_blockKeys]
    · rw [keysIn, keysIn, List.append_nil]
      exact hsibling
    · exact fun _ => rfl
    · intro key hkey hmem
      rw [keys_settled] at hmem
      exact hblockRest key hmem key (List.mem_append_left _ (blockKeys_subset sibling hkey)) rfl
  rw [turns_append, hfirst, hcontainer, hsecond]

/-- The turns of all blocks, when the first node is not paired with what follows it. -/
theorem turns_alone (hkeys : (keysIn (n :: rest)).Nodup)
    (hlone : n.node.isBlock = true → pairNext n rest = n :: rest) :
    turns (blockKeysIn (n :: rest)) (n :: rest) =
      n.settled :: turns (blockKeysIn rest) rest := by
  have hbehind : ∀ key ∈ blockKeysIn rest, key ∉ n.settled.keys := by
    intro key hkey hmem
    rw [keysIn, List.nodup_append] at hkeys
    rw [keys_settled] at hmem
    exact hkeys.2.2 key hmem key (blockKeysIn_subset rest hkey) rfl
  rw [blockKeysIn, turns_append, turns_blockKeys hkeys hlone, turns_behind hbehind]

/-- The turns of all blocks, when the first node is a block that an output follows. -/
theorem turns_paired (hkeys : (keysIn (block :: (between ++ sibling :: after))).Nodup)
    (hblock : block.node.isBlock = true)
    (hnext : nextElement? (between ++ sibling :: after) = some (between, sibling, after))
    (houtput : sibling.node.isOutput = true) :
    turns (blockKeysIn (block :: (between ++ sibling :: after)))
        (block :: (between ++ sibling :: after)) =
      container [block.settled, sibling.settled] ::
        (between ++ turns (blockKeysIn after) after) := by
  have hbetween := (nextElement?_inv hnext).2
  have hblocks : blockKeysIn (block :: (between ++ sibling :: after)) =
      (block.blockKeys ++ sibling.blockKeys) ++ blockKeysIn after := by
    rw [blockKeysIn, blockKeysIn_append, blockKeysIn_of_leaves hbetween, blockKeysIn,
      List.nil_append, List.append_assoc]
  have hbehind : ∀ key ∈ blockKeysIn after,
      key ∉ (container [block.settled, sibling.settled]).keys := by
    intro key hkey hmem
    have hkey := blockKeysIn_subset after hkey
    rw [keysIn, keysIn_append, keysIn_of_leaves hbetween, List.nil_append, keysIn,
      List.nodup_append, List.nodup_append] at hkeys
    obtain ⟨-, ⟨-, -, hapart⟩, hdisjoint⟩ := hkeys
    rw [keys, keysIn, keysIn, keysIn, List.append_nil, keys_settled, keys_settled,
      List.mem_append] at hmem
    rcases hmem with hmem | hmem
    · exact hdisjoint key hmem key (List.mem_append_right _ hkey) rfl
    · exact hapart key hmem key hkey rfl
  rw [hblocks, turns_append, turns_pair hkeys hblock hnext houtput, turns_behind hbehind,
    turns_behind_leaves hbetween]

/-- The turns of the blocks among siblings, when those inside them are known. -/
theorem nodes_turns_siblings (fuel : ℕ) (hfuel : ns.length ≤ fuel) (hkeys : (keysIn ns).Nodup)
    (hinside : ∀ n ∈ ns, n.settled.node = pairInside n.node) :
    nodes (turns (blockKeysIn ns) ns) = pairSiblings fuel (pairEach (nodes ns)) := by
  induction fuel generalizing ns with
  | zero =>
    obtain rfl := List.eq_nil_of_length_eq_zero (Nat.le_zero.mp hfuel)
    rfl
  | succ fuel ih =>
    cases ns with
    | nil => rfl
    | cons n ns =>
      obtain ⟨hn, hns⟩ := List.forall_mem_cons.mp hinside
      rw [List.length_cons] at hfuel
      have hrest : (keysIn ns).Nodup := (List.nodup_append.mp hkeys).2.1
      have halone (hlone : n.node.isBlock = true → nextOutput? (nodes ns) = none) :
          nodes (turns (blockKeysIn (n :: ns)) (n :: ns)) =
            pairInside n.node :: pairSiblings fuel (pairEach (nodes ns)) := by
        rw [turns_alone hkeys fun hblock => pairNext_of_none (hlone hblock), nodes, hn,
          ih (by omega) hrest hns]
      rw [nodes, pairEach, pairSiblings, isBlock_pairInside, nextOutput?_pairEach]
      by_cases hblock : n.node.isBlock = true
      · rw [if_pos hblock]
        cases houtput : nextOutput? (nodes ns) with
        | none => exact halone fun _ => houtput
        | some found =>
          rw [nextOutput?_nodes, Option.bind_eq_some_iff] at houtput
          obtain ⟨⟨between, sibling, after⟩, hnext, houtput⟩ := houtput
          dsimp only at houtput
          split_ifs at houtput with hsibling
          cases houtput
          obtain ⟨rfl, hbetween⟩ := nextElement?_inv hnext
          rw [List.forall_mem_append, List.forall_mem_cons] at hns
          obtain ⟨-, hs, hafter⟩ := hns
          rw [List.length_append, List.length_cons] at hfuel
          rw [keysIn_append, keysIn_of_leaves hbetween, List.nil_append, keysIn,
            List.nodup_append] at hrest
          rw [turns_paired hkeys hblock hnext hsibling, nodes, nodes_append,
            ih (by omega) hrest.2.1 hafter, node, nodes, nodes, nodes, hn, hs]
          rfl
      · rw [if_neg hblock]
        exact halone fun h => absurd h hblock

theorem nodes_turns (hkeys : (keysIn ns).Nodup)
    (hinside : ∀ n ∈ ns, n.settled.node = pairInside n.node) :
    nodes (turns (blockKeysIn ns) ns) = pairIn (nodes ns) :=
  nodes_turns_siblings _ (length_nodes ns).ge hkeys hinside

mutual

theorem node_settled : (n : Keyed) → n.keys.Nodup → n.settled.node = pairInside n.node
  | element _ name attrs children, h => by
    rw [keys, List.nodup_cons] at h
    exact congrArg (Node.element name attrs)
      (nodes_turns h.2 (node_settled_of_mem children h.2))
  | container children, h =>
    congrArg Node.containerOf (nodes_turns h (node_settled_of_mem children h))
  | text _, _ => rfl
  | note _ _, _ => rfl

theorem node_settled_of_mem :
    (ns : List Keyed) → (keysIn ns).Nodup → ∀ n ∈ ns, n.settled.node = pairInside n.node
  | [], _ => by simp
  | n :: ns, h => by
    rw [keysIn, List.nodup_append] at h
    exact List.forall_mem_cons.mpr ⟨node_settled n h.1, node_settled_of_mem ns h.2.1⟩

end

/-! ## Giving keys -/

mutual

theorem node_ofNode (next : Nat) : (n : Node) → (ofNode next n).1.node = n
  | .element name attrs children => by
    rw [ofNode, node, nodes_ofNodes]
  | .text _ => rfl
  | .note _ _ => rfl

theorem nodes_ofNodes (next : Nat) : (ns : List Node) → nodes (ofNodes next ns).1 = ns
  | [] => rfl
  | n :: ns => by
    rw [ofNodes, nodes, node_ofNode, nodes_ofNodes]

end

mutual

theorem keys_ofNode (next : Nat) :
    (n : Node) → ∃ count, (ofNode next n).2 = next + count ∧
      (ofNode next n).1.keys = List.range' next count
  | .element name attrs children => by
    obtain ⟨count, hlast, hkeys⟩ := keysIn_ofNodes (next + 1) children
    refine ⟨count + 1, ?_, ?_⟩
    · rw [ofNode, hlast]
      omega
    · rw [ofNode, keys, hkeys, List.range'_succ]
  | .text _ => ⟨0, rfl, rfl⟩
  | .note _ _ => ⟨0, rfl, rfl⟩

/-- The keys that are given are consecutive numbers, so they are all different. -/
theorem keysIn_ofNodes (next : Nat) :
    (ns : List Node) → ∃ count, (ofNodes next ns).2 = next + count ∧
      keysIn (ofNodes next ns).1 = List.range' next count
  | [] => ⟨0, rfl, rfl⟩
  | n :: ns => by
    obtain ⟨count, hnext, hkeys⟩ := keys_ofNode next n
    obtain ⟨count', hlast, hkeys'⟩ := keysIn_ofNodes (next + count) ns
    rw [← hnext] at hlast hkeys'
    refine ⟨count + count', ?_, ?_⟩
    · show (ofNodes (ofNode next n).2 ns).2 = _
      rw [hlast, hnext, Nat.add_assoc]
    · show (ofNode next n).1.keys ++ keysIn (ofNodes (ofNode next n).2 ns).1 = _
      rw [hkeys, hkeys', hnext, List.range'_append_1]

end

end Keyed

/-- **The turns of all blocks come to one recursion.** -/
theorem pairBlocks_eq_pairIn (ns : List Node) : pairBlocks ns = pairIn ns := by
  obtain ⟨count, -, hkeys⟩ := Keyed.keysIn_ofNodes 0 ns
  have hnodup : (Keyed.keysIn (Keyed.ofNodes 0 ns).1).Nodup := by
    rw [hkeys]
    exact List.nodup_range'
  have hturns := Keyed.nodes_turns hnodup (Keyed.node_settled_of_mem _ hnodup)
  rw [Keyed.nodes_ofNodes] at hturns
  exact hturns

end Literate.Html
