import Mathlib.Data.List.Nodup
import Mathlib.Logic.Function.Basic
import ReviewDesk.Json.Record

/-!
Records written as objects. What is found under the names of a record is a function of its members that
knows nothing of their order (`fieldsOf?_perm`) and nothing of members with other names
(`fieldsOf?_cons_of_notMem`); a known name may stand once (`fieldsOf?_cons`). Objects that are written
differently but alike are read alike (`Alike.bind_eq`).
-/

set_option autoImplicit false
set_option relaxedAutoImplicit false

namespace ReviewDesk.Json.Node

variable {α : Type} {names : List String} {members : List (Quoted × Node)}

/-! ### Fields by name -/

/-- What is found under a name. -/
def fieldIn (fields : List (String × Node)) (name : String) : Option Node :=
  (fields.find? (·.1 == name)).map (·.2)

theorem fieldIn_cons (field : String × Node) (fields : List (String × Node)) :
    fieldIn (field :: fields) = Function.update (fieldIn fields) field.1 (some field.2) := by
  funext name
  by_cases h : name = field.1
  · simp [fieldIn, h]
  · simp [fieldIn, Function.update_of_ne h, Ne.symm h]

/-- Takes one more member into what is found. -/
def found? (names : List String) (found : String → Option Node) (member : Quoted × Node) :
    Option (String → Option Node) :=
  member.1.text?.bind fun name ↦
    if name ∈ names then
      if (found name).isSome then none else some (Function.update found name (some member.2))
    else some found

theorem map_fieldIn_addField? (names : List String) (fields : List (String × Node))
    (member : Quoted × Node) :
    (addField? names fields member).map fieldIn = found? names (fieldIn fields) member := by
  have hany (name : String) : fields.any (·.1 == name) = (fieldIn fields name).isSome := by
    rw [fieldIn, Option.isSome_map, Bool.eq_iff_iff, List.find?_isSome, List.any_eq_true]
  rw [addField?, found?]
  cases member.1.text? with
  | none => rfl
  | some name =>
    simp only [Option.bind_eq_bind, Option.bind_some, List.contains_iff_mem, hany]
    by_cases hknown : name ∈ names
    · rw [if_pos hknown, if_pos hknown]
      split
      · rfl
      · exact congrArg some (fieldIn_cons ..)
    · rw [if_neg hknown, if_neg hknown]
      rfl

theorem found?_comm (found : Option (String → Option Node)) (member other : Quoted × Node) :
    (found.bind (found? names · member)).bind (found? names · other) =
      (found.bind (found? names · other)).bind (found? names · member) := by
  cases found with
  | none => rfl
  | some found =>
    simp only [Option.bind_some, found?]
    cases member.1.text? with
    | none => cases other.1.text? <;> simp
    | some name =>
      cases other.1.text? with
      | none => simp
      | some name' =>
        -- Only members with one and the same known name get in each other's way, in either order.
        by_cases hknown : name ∈ names <;> by_cases hknown' : name' ∈ names <;>
          simp only [Option.bind_some, hknown, hknown', if_true, if_false]
        · by_cases hname : name = name'
          · subst hname
            split <;> simp
          · by_cases hheld : (found name).isSome <;> by_cases hheld' : (found name').isSome <;>
              simp [hheld, hheld', Function.update_of_ne, hname, Ne.symm hname]
            exact Function.update_comm hname ..
        · split <;> simp
        · split <;> simp

/-- What is found under the names of a record in an object. There is nothing if some name is no text or a
known one stands twice. -/
def fieldsOf? (names : List String) (members : List (Quoted × Node)) : Option (String → Option Node) :=
  ((Node.object members).fields? names).map fieldIn

theorem fieldsOf?_eq (names : List String) (members : List (Quoted × Node)) :
    fieldsOf? names members =
      members.foldl (fun found member ↦ found.bind (found? names · member)) (some fun _ ↦ none) := by
  have hfold (fields : Option (List (String × Node))) :
      (fields.bind (members.foldlM (addField? names))).map fieldIn =
        members.foldl (fun found member ↦ found.bind (found? names · member)) (fields.map fieldIn) := by
    induction members generalizing fields with
    | nil => cases fields <;> rfl
    | cons member members ih =>
      have hstep : (fields.bind (addField? names · member)).map fieldIn =
          (fields.map fieldIn).bind (found? names · member) := by
        cases fields with
        | none => rfl
        | some fields => exact map_fieldIn_addField? names fields member
      rw [List.foldl_cons, ← hstep, ← ih, Option.bind_assoc]
      rfl
  exact hfold (some [])

theorem fieldsOf?_perm {members' : List (Quoted × Node)} (h : members.Perm members') :
    fieldsOf? names members = fieldsOf? names members' := by
  rw [fieldsOf?_eq, fieldsOf?_eq]
  exact h.foldl_eq' (fun member _ other _ found ↦ found?_comm found member other) _

theorem fieldsOf?_cons (member : Quoted × Node) (members : List (Quoted × Node)) :
    fieldsOf? names (member :: members) = (fieldsOf? names members).bind (found? names · member) := by
  rw [fieldsOf?_perm (List.perm_append_singleton member members).symm, fieldsOf?_eq, List.foldl_append,
    ← fieldsOf?_eq]
  rfl

/-! ### Members one by one -/

variable {name : String} {quoted : Quoted} {node : Node}

theorem found?_of_notMem (hname : quoted.text? = some name) (h : name ∉ names)
    (found : String → Option Node) : found? names found (quoted, node) = some found := by
  rw [found?, hname, Option.bind_some, if_neg h]

theorem found?_of_mem (hname : quoted.text? = some name) (h : name ∈ names)
    (found : String → Option Node) :
    found? names found (quoted, node) =
      if (found name).isSome then none else some (Function.update found name (some node)) := by
  rw [found?, hname, Option.bind_some, if_pos h]

/-- A name that is not known may stand anywhere. -/
theorem fieldsOf?_cons_of_notMem (hname : quoted.text? = some name) (h : name ∉ names)
    (members : List (Quoted × Node)) :
    fieldsOf? names ((quoted, node) :: members) = fieldsOf? names members := by
  rw [fieldsOf?_cons]
  simp only [found?_of_notMem hname h, Option.bind_fun_some]

/-- Whether something is found under a known name is whether some member has it. -/
theorem isSome_iff_of_fieldsOf? {found : String → Option Node} (h : name ∈ names)
    (hfound : fieldsOf? names members = some found) :
    (found name).isSome ↔ ∃ member ∈ members, member.1.text? = some name := by
  induction members generalizing found with
  | nil =>
    cases hfound
    simp [fieldIn]
  | cons member members ih =>
    rw [fieldsOf?_cons, Option.bind_eq_some_iff] at hfound
    obtain ⟨rest, hrest, hmember⟩ := hfound
    rw [found?, Option.bind_eq_some_iff] at hmember
    obtain ⟨other, hother, hmember⟩ := hmember
    rw [List.exists_mem_cons_iff, hother, ← ih hrest]
    split at hmember
    · split at hmember
      · cases hmember
      · obtain rfl := Option.some.inj hmember
        by_cases hname : name = other
        · simp [hname]
        · simp [Function.update_of_ne hname, Ne.symm hname]
    · next hunknown =>
      obtain rfl := Option.some.inj hmember
      have hname : other ≠ name := fun heq ↦ hunknown (heq ▸ h)
      simp [hname]

theorem eq_none_of_forall_ne {found : String → Option Node} (h : name ∈ names)
    (hfound : fieldsOf? names members = some found)
    (habsent : ∀ member ∈ members, member.1.text? ≠ some name) : found name = none := by
  rw [← Option.not_isSome_iff_eq_none, isSome_iff_of_fieldsOf? h hfound]
  rintro ⟨member, hmember, hname⟩
  exact habsent member hmember hname

/-- Two ways to write the members of a record. The order may differ, members with unknown names may be
left out, a field that is not there may be null where it may be left out, and the value of a field may be
written in another way that is taken for the same. -/
inductive Alike (names nullable : List String) (Same : String → Node → Node → Prop) :
    List (Quoted × Node) → List (Quoted × Node) → Prop
  | perm {members members' : List (Quoted × Node)} : members.Perm members' →
    Alike names nullable Same members members'
  | unknown {name : String} {quoted : Quoted} {node : Node} {members : List (Quoted × Node)} :
    quoted.text? = some name → name ∉ names →
    Alike names nullable Same ((quoted, node) :: members) members
  | null {name : String} {quoted : Quoted} {members : List (Quoted × Node)} :
    quoted.text? = some name → name ∈ nullable → (∀ member ∈ members, member.1.text? ≠ some name) →
    Alike names nullable Same ((quoted, .null) :: members) members
  | value {name : String} {quoted : Quoted} {node node' : Node} {members : List (Quoted × Node)} :
    quoted.text? = some name → Same name node node' →
    Alike names nullable Same ((quoted, node) :: members) ((quoted, node') :: members)
  | symm {members members' : List (Quoted × Node)} : Alike names nullable Same members members' →
    Alike names nullable Same members' members
  | trans {members members' members'' : List (Quoted × Node)} :
    Alike names nullable Same members members' → Alike names nullable Same members' members'' →
    Alike names nullable Same members members''

variable {nullable : List String} {Same : String → Node → Node → Prop}

/-- Reading that takes null for nothing where it may, and the same for the same. -/
structure Tolerates (names nullable : List String) (Same : String → Node → Node → Prop)
    (read : (String → Option Node) → Option α) : Prop where
  subset : nullable ⊆ names
  null : ∀ found name, name ∈ nullable → found name = none →
    read (Function.update found name (some .null)) = read found
  value : ∀ found name node node', Same name node node' →
    read (Function.update found name (some node)) = read (Function.update found name (some node'))

theorem Alike.bind_eq {read : (String → Option Node) → Option α}
    (hread : Tolerates names nullable Same read) {members members' : List (Quoted × Node)}
    (h : Alike names nullable Same members members') :
    (fieldsOf? names members).bind read = (fieldsOf? names members').bind read := by
  induction h with
  | perm h => rw [fieldsOf?_perm h]
  | unknown hname h => rw [fieldsOf?_cons_of_notMem hname h]
  | @null name quoted members hname h habsent =>
    have hknown := hread.subset h
    rw [fieldsOf?_cons, Option.bind_assoc]
    refine Option.bind_congr fun found hfound ↦ ?_
    have hnone := eq_none_of_forall_ne hknown hfound habsent
    rw [found?_of_mem hname hknown, hnone]
    exact hread.null found name h hnone
  | @value name quoted node node' members hname hsame =>
    rw [fieldsOf?_cons, fieldsOf?_cons, Option.bind_assoc, Option.bind_assoc]
    refine Option.bind_congr fun found _ ↦ ?_
    by_cases hknown : name ∈ names
    · rw [found?_of_mem hname hknown, found?_of_mem hname hknown]
      split
      · rfl
      · exact hread.value found name node node' hsame
    · rw [found?_of_notMem hname hknown, found?_of_notMem hname hknown]
  | symm _ ih => exact ih.symm
  | trans _ _ ih ih' => exact ih.trans ih'

end ReviewDesk.Json.Node
