import Mathlib
import SqlCompose.Condition.Json
import SqlCompose.Proofs.Text.Blank

/-!
# The grammar of conditions in Json

Which documents stand for a condition, and for which one, as rules. An array starts with an operator
that spells one of the keywords; the operands that a keyword takes have rules of their own.
-/

namespace SqlCompose

/-! ### Operators -/

/-- A text is a keyword in any letter case, with or without blanks around it. -/
def Spells (op keyword : String) : Prop :=
  ∃ before word after : List Char, op.toList = before ++ word ++ after ∧
    (∀ c ∈ before ++ after, isBlank c = true) ∧ word.map Char.toLower = keyword.toList

/-- The tokens of a comparison; inequality has two of them. -/
def CompareOp.tokens : CompareOp → List String
  | .eq => ["="]
  | .ne => ["<>", "!="]
  | .gt => [">"]
  | .gte => [">="]
  | .lt => ["<"]
  | .lte => ["<="]

def LikeOp.keyword : LikeOp → String
  | .like => "like"
  | .notLike => "not like"
  | .orLike => "or like"
  | .orNotLike => "or not like"
  | .ilike => "ilike"
  | .notIlike => "not ilike"

/-- The tokens of comparisons are all told apart. -/
lemma CompareOp.ofToken?_eq_some_iff {token : String} {op : CompareOp} :
    ofToken? token = some op ↔ token ∈ op.tokens := by
  constructor
  · intro h
    unfold ofToken? at h
    split at h <;> cases h <;> decide
  · intro h
    cases op <;> fin_cases h <;> rfl

/-- An operator is read from its own keyword only. -/
lemma LikeOp.ofKeyword?_eq_some_iff {keyword : String} {op : LikeOp} :
    ofKeyword? keyword = some op ↔ keyword = op.keyword := by
  constructor
  · intro h
    unfold ofKeyword? at h
    split at h <;> cases h <;> rfl
  · rintro rfl
    cases op <;> rfl

/-- A keyword neither starts nor ends with a blank. -/
def isTrimmed (keyword : String) : Bool :=
  (keyword.toList.head?.all fun c => !isBlank c) &&
    keyword.toList.getLast?.all fun c => !isBlank c

/-- Letter case makes no difference to blanks. -/
lemma isBlank_toLower (c : Char) : isBlank c.toLower = isBlank c := by
  by_cases hc : c.isUpper
  · have hcapitals : ∀ n ∈ List.range' 65 26, isBlank (.ofNat (n + 32)) = isBlank (.ofNat n) := by
      decide
    have hmem : c.toNat ∈ List.range' 65 26 := by
      have hrange : 65 ≤ c.toNat ∧ c.toNat ≤ 90 := by
        simpa [Char.isUpper, UInt32.le_iff_toNat_le] using hc
      rw [List.mem_range'_1]
      omega
    rw [Char.toLower_eq_of_isUpper hc, hcapitals _ hmem, Char.ofNat_toNat]
  · rw [Char.toLower_eq_of_not_isUpper hc]

/-- A text spells a keyword exactly if it is looked up as that keyword. -/
lemma spells_iff {op keyword : String} (hkeyword : isTrimmed keyword = true) :
    Spells op keyword ↔ Condition.normalizeOperator op = keyword := by
  rw [← String.toList_inj, Condition.normalizeOperator, Text.toLower, String.toList_ofList,
    Text.toList_trim]
  constructor
  · rintro ⟨before, word, after, hop, hblank, hword⟩
    rw [List.forall_mem_append] at hblank
    have hends : (∀ c ∈ word.head?, isBlank c = false) ∧
        ∀ c ∈ word.getLast?, isBlank c = false := by
      rw [isTrimmed, ← hword, List.head?_map, List.getLast?_map] at hkeyword
      simpa [isBlank_toLower, Option.all_eq_true] using hkeyword
    rw [hop, Chars.trim_append hends.1 hends.2 hblank.1 hblank.2, hword]
  · intro h
    obtain ⟨before, after, hop, hblank⟩ := Chars.exists_eq_append_trim_append op.toList
    exact ⟨before, Chars.trim op.toList, after, hop, hblank, h⟩

/-! ### The rules -/

namespace Grammar

/-- A scalar stands for a value. An integer that 64 bits with a sign cannot hold is a float. -/
inductive Scalar : Json → Value → Prop
  | null : Scalar .null .null
  | bool (b : Bool) : Scalar (.bool b) (.bool b)
  | int (n : Int64) : Scalar (.number (.integer n.toInt)) (.int n)
  | wide {i : ℤ} (h : ∀ n : Int64, n.toInt ≠ i) : Scalar (.number (.integer i)) (.float (.ofInt i))
  | float (x : Double) : Scalar (.number (.double x)) (.float x)
  | text (s : String) : Scalar (.string s) (.text s)

/-- An array of scalars stands for the list of their values. -/
inductive Row : Json → List Value → Prop
  | mk {js : List Json} {vs : List Value} (h : List.Forall₂ Scalar js vs) : Row (.array js) vs

/-- A scalar stands for the list of its value, an array of scalars for the list of theirs. -/
inductive Scalars : Json → List Value → Prop
  | one {j : Json} {v : Value} (h : Scalar j v) : Scalars j [v]
  | many {j : Json} {vs : List Value} (h : Row j vs) : Scalars j vs

/-- What a member of an object is compared with. -/
inductive Comparand : Json → Operand → Prop
  | value {j : Json} {v : Value} (h : Scalar j v) : Comparand j (.value v)
  | list {j : Json} {vs : List Value} (h : Row j vs) : Comparand j (.list vs)

/-- A text that is not empty is the name of a column. -/
inductive Column : Json → String → Prop
  | mk {s : String} (h : s ≠ "") : Column (.string s) s

/-- The operands of a range. -/
inductive Range (negated : Bool) : List Json → Condition → Prop
  | mk {column low high : Json} {name : String} {v w : Value} (hcolumn : Column column name)
    (hlow : Scalar low v) (hhigh : Scalar high w) :
    Range negated [column, low, high] (.between name v w negated)

/-- The operands of a membership: of a column in values, or of several columns in rows. -/
inductive Within (negated : Bool) : List Json → Condition → Prop
  | list {column values : Json} {name : String} {vs : List Value} (hcolumn : Column column name)
    (hvalues : Scalars values vs) :
    Within negated [column, values] (.within [name] (.list vs) negated)
  | rows {columns rows : List Json} {names : List String} {vss : List (List Value)}
    (hcolumns : List.Forall₂ Column columns names) (hrows : List.Forall₂ Row rows vss) :
    Within negated [.array columns, .array rows] (.within names (.rows vss) negated)

/-- The operands of a comparison with patterns; the flag flips the negation. -/
inductive Likeness (family : LikeOp) : List Json → Condition → Prop
  | plain {column values : Json} {name : String} {vs : List Value} (hcolumn : Column column name)
    (hvalues : Scalars values vs) :
    Likeness family [column, values] (.like family name vs false)
  | flagged {column values : Json} {name : String} {vs : List Value}
    (hcolumn : Column column name) (hvalues : Scalars values vs) (flag : Bool) :
    Likeness family [column, values, .bool flag]
      (.like (if flag then family.negate else family) name vs false)

/-- The operands of a comparison with a value. -/
inductive Comparison (op : CompareOp) : List Json → Condition → Prop
  | mk {column j : Json} {name : String} {v : Value} (hcolumn : Column column name)
    (hvalue : Scalar j v) : Comparison op [column, j] (.compare name op (.value v))

/-- The operands of an operator that takes no conditions. -/
inductive Leaf : String → List Json → Condition → Prop
  | between {js : List Json} {c : Condition} (h : Range false js c) : Leaf "between" js c
  | notBetween {js : List Json} {c : Condition} (h : Range true js c) : Leaf "not between" js c
  | within {js : List Json} {c : Condition} (h : Within false js c) : Leaf "in" js c
  | notWithin {js : List Json} {c : Condition} (h : Within true js c) : Leaf "not in" js c
  | like {family : LikeOp} {js : List Json} {c : Condition} (h : Likeness family js c) :
    Leaf family.keyword js c
  | compare {op : CompareOp} {token : String} {js : List Json} {c : Condition}
    (htoken : token ∈ op.tokens) (h : Comparison op js c) : Leaf token js c

/-- A document stands for a condition. -/
inductive Derives : Json → Condition → Prop
  | raw (sql : String) : Derives (.string sql) (.raw sql ∅)
  | hash {members : List (String × Json)} {pairs : List (String × Operand)}
    (h : List.Forall₂ (fun m p => m.1 = p.1 ∧ Comparand m.2 p.2) members pairs) :
    Derives (.object members) (.hash pairs)
  | nothing : Derives (.array []) (.and [])
  | and {op : String} {js : List Json} {cs : List Condition} (hop : Spells op "and")
    (h : List.Forall₂ Derives js cs) : Derives (.array (.string op :: js)) (.and cs)
  | or {op : String} {js : List Json} {cs : List Condition} (hop : Spells op "or")
    (h : List.Forall₂ Derives js cs) : Derives (.array (.string op :: js)) (.or cs)
  | not {op : String} {j : Json} {c : Condition} (hop : Spells op "not") (h : Derives j c) :
    Derives (.array [.string op, j]) (.not c)
  | leaf {op keyword : String} {js : List Json} {c : Condition} (hop : Spells op keyword)
    (h : Leaf keyword js c) : Derives (.array (.string op :: js)) c

end Grammar

end SqlCompose
