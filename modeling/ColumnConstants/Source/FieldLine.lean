import ColumnConstants.Source.Declaration
import ColumnConstants.Source.Token

namespace ColumnConstants

def StringLiteral.tag (l : StringLiteral) : String :=
  String.ofList ('\x60' :: l.value ++ ['\x60'])

namespace FieldDecl

def listedNames : List Token → List String
  | .word name :: .mark ',' :: ts => name :: listedNames ts
  | .word name :: _ => [name]
  | _ => []

-- Whether the last token closes the first of `depth` open square brackets, and none does so
-- before.
-- Only square brackets count here. `T[A]` is an instance of a generic type and ends with its list
-- of arguments, while the type of an array field goes on behind the length.
def closesAtEnd (depth : Nat) : List Token → Bool
  | [] => false
  | .opening .square :: ts => closesAtEnd (depth + 1) ts
  | .closing .square :: ts => if depth ≤ 1 then ts.isEmpty else closesAtEnd (depth - 1) ts
  | _ :: ts => closesAtEnd depth ts

-- A line such as `A, B int` or `Items [4]int` declares names, and `T`, `p.T`, `*T` or `T[A]` embeds a
-- type.
def namesOf : List Token → List String
  | .word name :: ts =>
    match ts with
    | [] => []
    | .mark '.' :: _ => []
    | .mark ',' :: _ => listedNames (.word name :: ts)
    | .opening .square :: _ => if closesAtEnd 0 ts then [] else [name]
    | _ => [name]
  | _ => []

def splitTag (line : List Token) : Option String × List Token :=
  match line.getLast? with
  | some (.string l) => (some l.tag, line.dropLast)
  | _ => (none, line)

def ofLine? (line : List Token) : Option FieldDecl :=
  let (tag, declared) := splitTag line
  if declared.isEmpty then none else some ⟨namesOf declared, tag⟩

section

variable {name : String} {ts line : List Token} {decl : FieldDecl}

theorem word_mem_of_mem_listedNames (h : name ∈ listedNames ts) : .word name ∈ ts := by
  fun_induction listedNames ts with
  | case1 first ts ih =>
    obtain rfl | h := List.mem_cons.mp h
    · exact List.mem_cons_self
    · exact List.mem_cons_of_mem _ (List.mem_cons_of_mem _ (ih h))
  | case2 => simp_all
  | case3 => cases h

theorem word_mem_of_mem_namesOf (h : name ∈ namesOf ts) : .word name ∈ ts := by
  unfold namesOf at h
  split at h
  case h_2 => cases h
  case h_1 first ts =>
    split at h
    case h_1 | h_2 => cases h
    case h_3 => exact word_mem_of_mem_listedNames h
    case h_4 => split at h <;> simp_all
    case h_5 => simp_all

theorem splitTag_subset (line : List Token) : (splitTag line).2 ⊆ line := by
  unfold splitTag
  split
  · exact List.dropLast_subset line
  · exact List.Subset.refl line

theorem word_mem_of_ofLine? (h : ofLine? line = some decl) (hn : name ∈ decl.names) :
    .word name ∈ line := by
  unfold ofLine? at h
  split at h
  case h_1 tag declared hs =>
    split at h
    case isTrue => cases h
    case isFalse =>
      cases h
      have hd : declared ⊆ line := by simpa [hs] using splitTag_subset line
      exact hd (word_mem_of_mem_namesOf hn)

end

end FieldDecl

end ColumnConstants
