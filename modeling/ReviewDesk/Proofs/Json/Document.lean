import ReviewDesk.Proofs.Json.Spelling

/-!
Values as text and back. A value in which at most 127 containers stand within each other is read back from
its own text (`IsValue.read?_text`), whatever its names and strings are. Whole numbers have to fit in 64
bits, and of a double it is assumed that the shortest decimal written for it reads as it.
-/

set_option autoImplicit false
set_option relaxedAutoImplicit false

namespace ReviewDesk.Json

/-! ### What a value is written as -/

/-- The text of a value is read as a tree. -/
def Writes (value : Json) (node : Node) : Prop := Node.Spells (Node.ofJson value).text node

/-- The text of a member is read as a member with this name. -/
def WritesMember (member : String × Json) (read : Quoted × Node) : Prop :=
  Quoted.IsReadAs member.1.toList read.1 ∧ Writes member.2 read.2

theorem Writes.ofText?_eq {value : Json} {node : Node} (h : Writes value node) :
    Node.ofText? value.text = some node := Node.Spells.ofText?_eq h

theorem Writes.unique {value : Json} {node node' : Node} (h : Writes value node)
    (h' : Writes value node') : node = node' :=
  Option.some.inj (h.ofText?_eq.symm.trans h'.ofText?_eq)

theorem WritesMember.text?_eq {member : String × Json} {read : Quoted × Node}
    (h : WritesMember member read) : read.1.text? = some member.1 :=
  Quoted.text?_eq_some_of_decode? h.1.decode

theorem writes_null : Writes null .null := Node.spells_null

theorem writes_bool (b : Bool) : Writes (.bool b) (.bool b) := Node.spells_bool b

theorem writes_number {number : Number} {n : Numeral}
    (h : Numeral.ofChars? (Numeral.ofNumber number).text = some n) :
    Writes (.number number) (.number n) := Node.spells_number h

theorem writes_ofInt (n : Int) : Writes (ofInt n) (.number (.ofInt n)) :=
  writes_number (Numeral.ofChars?_ofInt n)

theorem exists_writes_string (text : String) :
    ∃ pieces : Quoted, pieces.text? = some text ∧ Writes (.string text) (.string pieces) := by
  obtain ⟨pieces, hpieces⟩ := Quoted.exists_isReadAs text.toList
  refine ⟨pieces, Quoted.text?_eq_some_of_decode? hpieces.decode, ?_⟩
  rw [Writes, Node.ofJson, Node.text, Quoted.text_ofText]
  exact Node.spells_string hpieces

theorem exists_writesMember (name : String) {value : Json} {node : Node} (h : Writes value node) :
    ∃ read, WritesMember (name, value) read ∧ read.2 = node := by
  obtain ⟨pieces, hpieces⟩ := Quoted.exists_isReadAs name.toList
  exact ⟨(pieces, node), ⟨hpieces, h⟩, rfl⟩

theorem writes_array {items : List Json} {nodes : List Node} (h : List.Forall₂ Writes items nodes) :
    Writes (.array items) (.array nodes) := by
  have htexts : List.Forall₂ Node.Spells (Node.texts (Node.ofItems items)) nodes := by
    induction h with
    | nil => exact .nil
    | cons hfirst _ ih => exact .cons hfirst ih
  exact Node.spells_array htexts

theorem writes_object {members : List (String × Json)} {read : List (Quoted × Node)}
    (h : List.Forall₂ WritesMember members read) : Writes (.object members) (.object read) := by
  have htexts : List.Forall₂ Node.SpellsMember (Node.memberTexts (Node.ofMembers members)) read := by
    induction h with
    | nil => exact .nil
    | cons hfirst _ ih =>
      refine .cons ⟨_, _, ?_, hfirst.1, hfirst.2⟩ ih
      rw [Quoted.text_ofText]
      simp
  exact Node.spells_object htexts

theorem exists_forall₂ {α β : Type} {R : α → β → Prop} {as : List α} (h : ∀ a ∈ as, ∃ b, R a b) :
    ∃ bs, List.Forall₂ R as bs := by
  induction as with
  | nil => exact ⟨[], .nil⟩
  | cons a as ih =>
    obtain ⟨hfirst, hrest⟩ := List.forall_mem_cons.mp h
    obtain ⟨b, hb⟩ := hfirst
    obtain ⟨bs, hbs⟩ := ih hrest
    exact ⟨b :: bs, .cons hb hbs⟩

/-! ### What a value is read as -/

/-- A value as it can be held, in which at most `depth` containers stand within each other. -/
inductive IsValue : Nat → Json → Prop
  | null {depth : Nat} : IsValue depth .null
  | bool {depth : Nat} (b : Bool) : IsValue depth (.bool b)
  | whole {depth : Nat} {n : Int} : -(2 : Int) ^ 63 ≤ n → n < 2 ^ 64 → IsValue depth (.number (.whole n))
  /-- The decimal that is written for a double is read as it. -/
  | double {depth : Nat} {bits : UInt64} :
    (Numeral.ofChars? (Numeral.ofDouble bits).text).bind Numeral.value? = some (.double bits) →
    IsValue depth (.number (.double bits))
  | string {depth : Nat} (text : String) : IsValue depth (.string text)
  | array {depth : Nat} {items : List Json} : (∀ item ∈ items, IsValue depth item) →
    IsValue (depth + 1) (.array items)
  | object {depth : Nat} {members : List (String × Json)} :
    (members.Pairwise fun a b ↦ a.1 < b.1) → (∀ member ∈ members, IsValue depth member.2) →
    IsValue (depth + 1) (.object members)

theorem putMember_of_forall_lt {name : String} {value : Json} {held : List (String × Json)}
    (h : ∀ member ∈ held, member.1 < name) : putMember name value held = held ++ [(name, value)] := by
  induction held with
  | nil => rfl
  | cons head rest ih =>
    obtain ⟨hhead, hrest⟩ := List.forall_mem_cons.mp h
    rw [putMember, if_neg (fun heq ↦ String.lt_irrefl head.1 (by rwa [heq] at hhead)),
      if_neg (String.lt_asymm hhead), ih hrest]
    rfl

/-- Members in order are left as they are. -/
theorem ofMembers_of_pairwise {members : List (String × Json)}
    (h : members.Pairwise fun a b ↦ a.1 < b.1) : ofMembers members = .object members := by
  have hfold (members held : List (String × Json))
      (h : (held ++ members).Pairwise fun a b ↦ a.1 < b.1) :
      members.foldl (fun held member ↦ putMember member.1 member.2 held) held = held ++ members := by
    induction members generalizing held with
    | nil => simp
    | cons member members ih =>
      have hlast : ∀ earlier ∈ held, earlier.1 < member.1 := fun earlier hearlier ↦
        (List.pairwise_append.mp h).2.2 earlier hearlier member List.mem_cons_self
      have hsplit : held ++ member :: members = held ++ [member] ++ members := by simp
      rw [List.foldl_cons, putMember_of_forall_lt hlast, hsplit]
      exact ih (held ++ [member]) (hsplit ▸ h)
  rw [ofMembers, hfold members [] h, List.nil_append]

theorem values?_eq {depth : Nat} {items : List Json} {nodes : List Node}
    (h : List.Forall₂ (fun item node ↦ Node.value? depth node = some item) items nodes) :
    Node.values? depth nodes = some items := by
  induction h with
  | nil => rfl
  | cons hfirst _ ih => rw [Node.values?, hfirst, ih]; rfl

theorem memberValues?_eq {depth : Nat} {members : List (String × Json)} {read : List (Quoted × Node)}
    (h : List.Forall₂ (fun member (r : Quoted × Node) ↦ r.1.text? = some member.1 ∧
      Node.value? depth r.2 = some member.2) members read) :
    Node.memberValues? depth read = some members := by
  induction h with
  | nil => rfl
  | cons hfirst _ ih => rw [Node.memberValues?, hfirst.1, hfirst.2, ih]; rfl

theorem IsValue.exists_writes {depth : Nat} {value : Json} (h : IsValue depth value) :
    ∃ node, Writes value node ∧ node.value? depth = some value := by
  induction h with
  | null => exact ⟨_, writes_null, rfl⟩
  | bool b => exact ⟨_, writes_bool b, rfl⟩
  | whole hlow hhigh => exact ⟨_, writes_ofInt _, by rw [Node.value?, Numeral.value?_ofInt hlow hhigh]; rfl⟩
  | double h =>
    obtain ⟨n, hn, hvalue⟩ := Option.bind_eq_some_iff.mp h
    exact ⟨_, writes_number hn, by rw [Node.value?, hvalue]; rfl⟩
  | string text =>
    obtain ⟨pieces, htext, hwrites⟩ := exists_writes_string text
    exact ⟨_, hwrites, by rw [Node.value?, htext]; rfl⟩
  | array _ ih =>
    obtain ⟨nodes, hnodes⟩ := exists_forall₂ ih
    refine ⟨_, writes_array (hnodes.imp fun _ _ ↦ And.left), ?_⟩
    rw [Node.value?, if_neg (Nat.succ_ne_zero _), Nat.add_sub_cancel,
      values?_eq (hnodes.imp fun _ _ ↦ And.right)]
    rfl
  | object hascending _ ih =>
    obtain ⟨read, hread⟩ := exists_forall₂ (R := fun (member : String × Json) (r : Quoted × Node) ↦
      WritesMember member r ∧ r.2.value? _ = some member.2) fun member hmember ↦ by
        obtain ⟨node, hwrites, hvalue⟩ := ih member hmember
        obtain ⟨r, hr, rfl⟩ := exists_writesMember member.1 hwrites
        exact ⟨r, hr, hvalue⟩
    refine ⟨_, writes_object (hread.imp fun _ _ ↦ And.left), ?_⟩
    rw [Node.value?, if_neg (Nat.succ_ne_zero _), Nat.add_sub_cancel,
      memberValues?_eq (hread.imp fun _ _ hr ↦ ⟨hr.1.text?_eq, hr.2⟩), Option.map_some,
      ofMembers_of_pairwise hascending]

theorem IsValue.read?_text {value : Json} (h : IsValue maxDepth value) : read? value.text = some value := by
  obtain ⟨node, hwrites, hvalue⟩ := h.exists_writes
  rw [read?, hwrites.ofText?_eq, Option.bind_some, hvalue]

end ReviewDesk.Json
