import Mathlib
import SqlCompose.Proofs.Reading.Formula

/-!
# Three truth values

A predicate on a row is true, false or unknown; it is unknown where it compares with a null. The
connectives are those of Kleene: a conjunction is as false as its most false part, a disjunction as
true as its truest, and the negation of what is unknown is unknown.
-/

namespace SqlCompose

/-- What a predicate is for a row. -/
inductive Truth
  | no
  | unknown
  | yes
  deriving DecidableEq

namespace Truth

/-- A truth value that is known. -/
def ofBool (b : Bool) : Truth := if b then yes else no

def not : Truth → Truth
  | no => yes
  | unknown => unknown
  | yes => no

def and : Truth → Truth → Truth
  | no, _ | _, no => no
  | yes, v | v, yes => v
  | unknown, unknown => unknown

def or : Truth → Truth → Truth
  | yes, _ | _, yes => yes
  | no, v | v, no => v
  | unknown, unknown => unknown

variable (u v w : Truth)

@[simp] lemma no_and : no.and v = no := by cases v <;> rfl

@[simp] lemma and_no : v.and no = no := by cases v <;> rfl

@[simp] lemma yes_and : yes.and v = v := by cases v <;> rfl

@[simp] lemma and_yes : v.and yes = v := by cases v <;> rfl

@[simp] lemma yes_or : yes.or v = yes := by cases v <;> rfl

@[simp] lemma or_yes : v.or yes = yes := by cases v <;> rfl

@[simp] lemma no_or : no.or v = v := by cases v <;> rfl

@[simp] lemma or_no : v.or no = v := by cases v <;> rfl

lemma and_assoc : (u.and v).and w = u.and (v.and w) := by cases u <;> cases v <;> cases w <;> rfl

lemma or_assoc : (u.or v).or w = u.or (v.or w) := by cases u <;> cases v <;> cases w <;> rfl

@[simp] lemma not_not : v.not.not = v := by cases v <;> rfl

@[simp] lemma ofBool_true : ofBool true = yes := rfl

@[simp] lemma ofBool_false : ofBool false = no := rfl

lemma ofBool_injective : Function.Injective ofBool := by decide

lemma not_ofBool (b : Bool) : (ofBool b).not = ofBool !b := by cases b <;> rfl

def all (vs : List Truth) : Truth := vs.foldr and yes

def any (vs : List Truth) : Truth := vs.foldr or no

@[simp] lemma all_nil : all [] = yes := rfl

@[simp] lemma all_cons (vs : List Truth) : all (v :: vs) = v.and (all vs) := rfl

@[simp] lemma any_nil : any [] = no := rfl

@[simp] lemma any_cons (vs : List Truth) : any (v :: vs) = v.or (any vs) := rfl

lemma all_append (vs ws : List Truth) : all (vs ++ ws) = (all vs).and (all ws) := by
  induction vs with
  | nil => simp
  | cons v vs ih => simp [ih, and_assoc]

lemma any_append (vs ws : List Truth) : any (vs ++ ws) = (any vs).or (any ws) := by
  induction vs with
  | nil => simp
  | cons v vs ih => simp [ih, or_assoc]

end Truth

namespace Formula

/-- What a formula is for a row that gives its atomic predicates these truth values. -/
def value (τ : List Token → Truth) : Formula → Truth
  | atom ts => τ ts
  | not f => (f.value τ).not
  | and f g => (f.value τ).and (g.value τ)
  | or f g => (f.value τ).or (g.value τ)

lemma value_foldl_and (τ : List Token → Truth) (f : Formula) (fs : List Formula) :
    (fs.foldl and f).value τ = (f.value τ).and (.all (fs.map (value τ))) := by
  induction fs generalizing f with
  | nil => simp
  | cons g fs ih => simp [ih, value, Truth.and_assoc]

lemma value_foldl_or (τ : List Token → Truth) (f : Formula) (fs : List Formula) :
    (fs.foldl or f).value τ = (f.value τ).or (.any (fs.map (value τ))) := by
  induction fs generalizing f with
  | nil => simp
  | cons g fs ih => simp [ih, value, Truth.or_assoc]

/-- Where every atomic predicate is known, so is the formula, and it has its truth value. -/
lemma value_ofBool (σ : List Token → Bool) (f : Formula) :
    f.value (fun ts => .ofBool (σ ts)) = .ofBool (f.eval σ) := by
  induction f with
  | atom ts => rfl
  | not f ih => rw [value, eval, ih, Truth.not_ofBool]
  | and f g ihf ihg =>
    rw [value, eval, ihf, ihg]
    cases f.eval σ <;> simp
  | or f g ihf ihg =>
    rw [value, eval, ihf, ihg]
    cases f.eval σ <;> simp

end Formula

end SqlCompose
