import Mathlib.Data.List.Forall2
import ReviewDesk.Json.Node
import ReviewDesk.Proofs.Json.Numeral
import ReviewDesk.Proofs.Json.Quoted

/-!
Texts and the trees that are read from them. A text spells a tree if it is read as that tree wherever a
value may stand; the parts of an array or an object spell what the whole spells, put together
(`Node.spells_array`, `Node.spells_object`). A document that spells a tree is read as it
(`Node.Spells.ofText?_eq`).
-/

set_option autoImplicit false
set_option relaxedAutoImplicit false

namespace ReviewDesk.Json

/-! ### Lexical items -/

namespace Token

/-- The lexical items of a text without spaces. -/
inductive Lexes : List Char → List Token → Prop
  | nil : Lexes [] []
  | cons {c : Char} {cs rest : List Char} {token : Token} {tokens : List Token} :
    isSpace c = false → read? (c :: cs) = some (token, rest) → rest.length ≤ cs.length →
    Lexes rest tokens → Lexes (c :: cs) (token :: tokens)

theorem Lexes.readUpTo?_eq {cs : List Char} {tokens : List Token} (h : Lexes cs tokens) {count : Nat}
    (hcount : cs.length ≤ count) : readUpTo? count cs = some tokens := by
  induction h generalizing count with
  | nil => cases count <;> rfl
  | cons hspace hread hrest _ ih =>
    cases count with
    | zero => cases hcount
    | succ count =>
      rw [readUpTo?, if_neg (Bool.eq_false_iff.mp hspace), hread]
      simp only [Option.bind_eq_bind, Option.bind_some,
        ih (Nat.le_trans hrest (Nat.le_of_succ_le_succ hcount))]

theorem Lexes.ofChars?_eq {cs : List Char} {tokens : List Token} (h : Lexes cs tokens) :
    ofChars? cs = some tokens := h.readUpTo?_eq (Nat.le_refl _)

/-- A text is read as lexical items wherever it stands before a separator. -/
def IsReadAs (cs : List Char) (tokens : List Token) : Prop :=
  ∀ rest after, Delimited rest → Lexes rest after → Lexes (cs ++ rest) (tokens ++ after)

theorem IsReadAs.append {cs cs' : List Char} {tokens tokens' : List Token} {c : Char} {token : Token}
    (h : IsReadAs cs tokens) (hdelimiter : c = ',' ∨ c = ']' ∨ c = '}')
    (hmark : ∀ rest after, Lexes rest after → Lexes (c :: rest) (token :: after))
    (h' : IsReadAs cs' tokens') : IsReadAs (cs ++ c :: cs') (tokens ++ token :: tokens') := by
  intro rest after hrest hafter
  have hlexes := h _ _ (delimited_cons hdelimiter (cs' ++ rest)) (hmark _ _ (h' rest after hrest hafter))
  simpa only [List.append_assoc, List.cons_append] using hlexes

theorem lexes_mark (c : Char) (token : Token) (hspace : isSpace c = false)
    (hread : ∀ rest, read? (c :: rest) = some (token, rest)) (rest : List Char) (after : List Token)
    (h : Lexes rest after) : Lexes (c :: rest) (token :: after) :=
  .cons hspace (hread rest) (Nat.le_refl _) h

theorem isReadAs_word {c : Char} {cs : List Char} {token : Token} (hspace : isSpace c = false)
    (hread : ∀ rest, read? (c :: (cs ++ rest)) = some (token, rest)) : IsReadAs (c :: cs) [token] :=
  fun rest _ _ hafter ↦ .cons hspace (hread rest) (by simp) hafter

theorem lexes_quoted {cs : List Char} {pieces : Quoted} (h : Quoted.IsReadAs cs pieces)
    {rest : List Char} {after : List Token} (hrest : Lexes rest after) :
    Lexes ('"' :: (cs.flatMap Quoted.escape ++ '"' :: rest)) (.string pieces :: after) := by
  refine .cons (by decide) ?_ (by simp only [List.length_append, List.length_cons]; omega) hrest
  rw [read?, h.read]
  rfl

/-- What a lexical item that is no numeral starts with. -/
def marks : List Char := ['[', ']', '{', '}', ',', ':', '"', 'n', 't', 'f']

theorem read?_of_notMem_marks {c : Char} (h : c ∉ marks) (cs : List Char) :
    read? (c :: cs) = (Numeral.read? (c :: cs)).map (Prod.map .number id) := by
  have hne (ds : List Char) {d : Char} (hd : d ∈ marks) : c :: cs ≠ d :: ds := by
    intro heq
    exact h ((List.cons.inj heq).1 ▸ hd)
  rw [read?.eq_12]
  · rfl
  · exact List.cons_ne_nil c cs
  all_goals exact fun ds hds ↦ hne _ (by simp [marks]) hds

theorem char_notMem_marks (d : Digit) : d.char ∉ marks := by
  revert d
  decide

theorem isSpace_char (d : Digit) : isSpace d.char = false := by
  revert d
  decide

theorem isReadAs_numeral {cs : List Char} {n : Numeral} (h : Numeral.ofChars? cs = some n) :
    IsReadAs cs [.number n] := by
  intro rest after hrest hafter
  have hread := Numeral.read?_of_ofChars? h hrest
  cases cs with
  | nil => cases h
  | cons c cs =>
    rw [List.cons_append] at hread ⊢
    obtain ⟨hspace, hmark⟩ : isSpace c = false ∧ c ∉ marks := by
      obtain rfl | hdigit := Numeral.start_of_read? hread
      · decide
      · obtain ⟨d, hd⟩ := Option.isSome_iff_exists.mp hdigit
        exact Digit.char_of_ofChar? hd ▸ ⟨isSpace_char d, char_notMem_marks d⟩
    exact .cons hspace ((read?_of_notMem_marks hmark _).trans (by rw [hread]; rfl)) (by simp) hafter

end Token

namespace Node

open Builder

/-! ### Values -/

/-- A text is read as a tree wherever a value may stand. -/
def Spells (cs : List Char) (node : Node) : Prop :=
  ∃ tokens, Token.IsReadAs cs tokens ∧
    ∀ frames, tokens.foldlM take? ⟨frames, .value⟩ = some (accept frames node)

theorem Spells.ofText?_eq {cs : List Char} {node : Node} (h : Spells cs node) :
    ofText? (String.ofList cs) = some node := by
  obtain ⟨tokens, hread, htree⟩ := h
  have hlexes := hread [] [] delimited_nil .nil
  rw [List.append_nil, List.append_nil] at hlexes
  rw [ofText?, String.toList_ofList, hlexes.ofChars?_eq, Option.bind_some, ofTokens?, htree]
  rfl

theorem spells_number {cs : List Char} {n : Numeral} (h : Numeral.ofChars? cs = some n) :
    Spells cs (.number n) := ⟨_, Token.isReadAs_numeral h, fun _ ↦ rfl⟩

theorem spells_string {cs : List Char} {pieces : Quoted} (h : Quoted.IsReadAs cs pieces) :
    Spells ('"' :: (cs.flatMap Quoted.escape ++ ['"'])) (.string pieces) := by
  refine ⟨[.string pieces], fun rest after _ hafter ↦ ?_, fun _ ↦ rfl⟩
  simpa using Token.lexes_quoted h hafter

theorem spells_null : Spells "null".toList .null :=
  ⟨_, Token.isReadAs_word (by decide) fun _ ↦ rfl, fun _ ↦ rfl⟩

theorem spells_bool (b : Bool) : Spells (if b then "true" else "false").toList (.bool b) := by
  cases b with
  | true => exact ⟨_, Token.isReadAs_word (by decide) fun _ ↦ rfl, fun _ ↦ rfl⟩
  | false => exact ⟨_, Token.isReadAs_word (by decide) fun _ ↦ rfl, fun _ ↦ rfl⟩

/-! ### Containers -/

/-- The parts of an open container, each behind the one before and a comma. -/
theorem exists_isReadAs_joined {α : Type} (Part : List Char → α → Prop)
    (start stop : List Frame → List α → Builder)
    (hpart : ∀ cs part, Part cs part → ∃ tokens, Token.IsReadAs cs tokens ∧
      ∀ outer held, tokens.foldlM take? (start outer held) = some (stop outer (part :: held)))
    (hcomma : ∀ outer part held,
      take? (stop outer (part :: held)) .comma = some (start outer (part :: held)))
    {text : List Char} {texts : List (List Char)} {part : α} {parts : List α}
    (h : List.Forall₂ Part (text :: texts) (part :: parts)) :
    ∃ tokens, Token.IsReadAs (joined (text :: texts)) tokens ∧ ∀ outer held,
      tokens.foldlM take? (start outer held) = some (stop outer ((part :: parts).reverse ++ held)) := by
  induction texts generalizing text part parts with
  | nil =>
    cases h with
    | cons hfirst hrest =>
      cases hrest
      exact hpart text part hfirst
  | cons text' texts ih =>
    cases h with
    | cons hfirst hrest =>
      cases parts with
      | nil => cases hrest
      | cons part' parts =>
        obtain ⟨tokens, hread, htree⟩ := hpart text part hfirst
        obtain ⟨tokens', hread', htree'⟩ := ih hrest
        have hmark := Token.lexes_mark ',' .comma (by decide) fun _ ↦ rfl
        refine ⟨_, hread.append (Or.inl rfl) hmark hread', fun outer held ↦ ?_⟩
        rw [List.foldlM_append, htree, Option.bind_eq_bind, Option.bind_some, List.foldlM_cons, hcomma,
          Option.bind_eq_bind, Option.bind_some, htree' outer (part :: held)]
        simp

/-- What starts a first part is taken where the container may also be closed. -/
theorem foldlM_opened (opened : Builder) {first last : Builder} {tokens : List Token}
    (hopened : ∀ token next, take? first token = some next → take? opened token = some next)
    (h : tokens.foldlM take? first = some last) (hne : first ≠ last) :
    tokens.foldlM take? opened = some last := by
  cases tokens with
  | nil => exact absurd (Option.some.inj h) hne
  | cons token tokens =>
    rw [List.foldlM_cons, Option.bind_eq_bind, Option.bind_eq_some_iff] at h ⊢
    obtain ⟨next, hnext, hrest⟩ := h
    exact ⟨next, hopened token next hnext, hrest⟩

theorem spells_array {texts : List (List Char)} {nodes : List Node} (h : List.Forall₂ Spells texts nodes) :
    Spells ('[' :: joined texts ++ [']']) (.array nodes) := by
  have hopen := Token.lexes_mark '[' .openArray (by decide) fun _ ↦ rfl
  have hclose := Token.lexes_mark ']' .closeArray (by decide) fun _ ↦ rfl
  cases h with
  | nil =>
    exact ⟨[.openArray, .closeArray], fun _ _ _ hafter ↦ hopen _ _ (hclose _ _ hafter), fun _ ↦ rfl⟩
  | cons hfirst hrest =>
    obtain ⟨tokens, hread, htree⟩ := exists_isReadAs_joined Spells
      (fun outer items ↦ ⟨.array items :: outer, .value⟩)
      (fun outer items ↦ ⟨.array items :: outer, .commaOrClose⟩)
      (fun _ _ ⟨tokens, hread, htree⟩ ↦ ⟨tokens, hread, fun outer items ↦ htree (.array items :: outer)⟩)
      (fun _ _ _ ↦ rfl) (.cons hfirst hrest)
    refine ⟨.openArray :: (tokens ++ [.closeArray]), fun rest after _ hafter ↦ ?_, fun frames ↦ ?_⟩
    · have hbody := hread _ _ (delimited_cons (Or.inr (Or.inl rfl)) rest) (hclose _ _ hafter)
      simpa using hopen _ _ hbody
    · have hopened := foldlM_opened ⟨.array [] :: frames, .valueOrClose⟩
        (fun token _ hnext ↦ by cases token <;> first | exact hnext | cases hnext)
        (htree frames []) (by simp)
      have hstart : take? ⟨frames, .value⟩ .openArray = some ⟨.array [] :: frames, .valueOrClose⟩ := rfl
      have hend (items : List Node) : take? ⟨.array items :: frames, .commaOrClose⟩ .closeArray =
          some (accept frames (.array items.reverse)) := rfl
      rw [List.foldlM_cons, hstart, Option.bind_eq_bind, Option.bind_some, List.foldlM_append,
        hopened, List.append_nil, Option.bind_eq_bind, Option.bind_some, List.foldlM_cons, hend,
        List.reverse_reverse]
      rfl

/-- A member of an object: a name between quotes, a colon and a value. -/
def SpellsMember (cs : List Char) (member : Quoted × Node) : Prop :=
  ∃ name value, cs = '"' :: (name.flatMap Quoted.escape ++ '"' :: ':' :: value) ∧
    Quoted.IsReadAs name member.1 ∧ Spells value member.2

theorem SpellsMember.exists_isReadAs {cs : List Char} {member : Quoted × Node} (h : SpellsMember cs member) :
    ∃ tokens, Token.IsReadAs cs tokens ∧ ∀ outer members, tokens.foldlM take? ⟨outer, .name members⟩ =
      some ⟨.object (member :: members) member.1 :: outer, .commaOrClose⟩ := by
  obtain ⟨name, value, rfl, hname, tokens, hread, htree⟩ := h
  have hcolon := Token.lexes_mark ':' .colon (by decide) fun _ ↦ rfl
  refine ⟨.string member.1 :: .colon :: tokens, fun rest after hrest hafter ↦ ?_, fun outer members ↦ ?_⟩
  · have hbody := Token.lexes_quoted hname (hcolon _ _ (hread rest after hrest hafter))
    simpa using hbody
  · exact htree (.object members member.1 :: outer)

theorem spells_object {texts : List (List Char)} {members : List (Quoted × Node)}
    (h : List.Forall₂ SpellsMember texts members) :
    Spells ('{' :: joined texts ++ ['}']) (.object members) := by
  have hopen := Token.lexes_mark '{' .openObject (by decide) fun _ ↦ rfl
  have hclose := Token.lexes_mark '}' .closeObject (by decide) fun _ ↦ rfl
  cases h with
  | nil =>
    exact ⟨[.openObject, .closeObject], fun _ _ _ hafter ↦ hopen _ _ (hclose _ _ hafter), fun _ ↦ rfl⟩
  | cons hfirst hrest =>
    -- An open object keeps the name of its latest member.
    obtain ⟨tokens, hread, htree⟩ := exists_isReadAs_joined SpellsMember
      (fun outer members ↦ ⟨outer, .name members⟩)
      (fun outer members ↦
        ⟨.object members ((members.head?.map Prod.fst).getD []) :: outer, .commaOrClose⟩)
      (fun _ _ hmember ↦ hmember.exists_isReadAs)
      (fun _ _ _ ↦ rfl) (.cons hfirst hrest)
    refine ⟨.openObject :: (tokens ++ [.closeObject]), fun rest after _ hafter ↦ ?_, fun frames ↦ ?_⟩
    · have hbody := hread _ _ (delimited_cons (Or.inr (Or.inr rfl)) rest) (hclose _ _ hafter)
      simpa using hopen _ _ hbody
    · have hopened := foldlM_opened ⟨frames, .nameOrClose []⟩
        (fun token _ hnext ↦ by cases token <;> first | exact hnext | cases hnext)
        (htree frames []) (by simp)
      have hstart : take? ⟨frames, .value⟩ .openObject = some ⟨frames, .nameOrClose []⟩ := rfl
      have hend (members : List (Quoted × Node)) (name : Quoted) :
          take? ⟨.object members name :: frames, .commaOrClose⟩ .closeObject =
            some (accept frames (.object members.reverse)) := rfl
      rw [List.foldlM_cons, hstart, Option.bind_eq_bind, Option.bind_some, List.foldlM_append,
        hopened, List.append_nil, Option.bind_eq_bind, Option.bind_some, List.foldlM_cons, hend,
        List.reverse_reverse]
      rfl

end Node

end ReviewDesk.Json
