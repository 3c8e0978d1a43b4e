import Mathlib
import SqlCompose.Proofs.Reading.Truth

/-!
# Precedence

What a connective between two texts makes of what each of them reads. A text is seen through the
parts of its top disjunction: OR puts the parts of both texts one after the other, AND joins the
last part of the first text and the first part of the second, and parentheses make one part of all.
-/

namespace SqlCompose

namespace Formula

/-! ### Formulas that mean the same -/

/-- Two formulas of the same atomic predicates with the same truth values. -/
structure Alike (f g : Formula) : Prop where
  atoms : f.atoms = g.atoms
  value : ∀ τ, f.value τ = g.value τ

lemma Alike.refl (f : Formula) : f.Alike f := ⟨rfl, fun _ => rfl⟩

lemma Alike.trans {f g h : Formula} (hfg : f.Alike g) (hgh : g.Alike h) : f.Alike h :=
  ⟨hfg.atoms.trans hgh.atoms, fun τ => (hfg.value τ).trans (hgh.value τ)⟩

lemma Alike.eval {f g : Formula} (h : f.Alike g) (σ : List Token → Bool) :
    f.eval σ = g.eval σ := by
  apply Truth.ofBool_injective
  rw [← value_ofBool, ← value_ofBool, h.value]

/-- The disjunction of some parts, of which there is at least one. -/
def anyOf : List Formula → Formula
  | [] => atom []
  | f :: fs => fs.foldl or f

lemma atoms_foldl_and (f : Formula) (fs : List Formula) :
    (fs.foldl and f).atoms = f.atoms ++ fs.flatMap atoms := by
  induction fs generalizing f with
  | nil => simp
  | cons g fs ih => simp [ih, atoms]

lemma atoms_foldl_or (f : Formula) (fs : List Formula) :
    (fs.foldl or f).atoms = f.atoms ++ fs.flatMap atoms := by
  induction fs generalizing f with
  | nil => simp
  | cons g fs ih => simp [ih, atoms]

lemma eval_foldl_or (σ : List Token → Bool) (f : Formula) (fs : List Formula) :
    (fs.foldl or f).eval σ = (f.eval σ || fs.any (eval σ)) := by
  induction fs generalizing f with
  | nil => simp
  | cons g fs ih => simp [ih, eval, Bool.or_assoc]

lemma atoms_anyOf {fs : List Formula} (h : fs ≠ []) : (anyOf fs).atoms = fs.flatMap atoms := by
  obtain ⟨f, fs, rfl⟩ := List.exists_cons_of_ne_nil h
  simp [anyOf, atoms_foldl_or]

lemma eval_anyOf {fs : List Formula} (h : fs ≠ []) (σ : List Token → Bool) :
    (anyOf fs).eval σ = fs.any (eval σ) := by
  obtain ⟨f, fs, rfl⟩ := List.exists_cons_of_ne_nil h
  simp [anyOf, eval_foldl_or]

/-- Alike parts make alike disjunctions. -/
lemma alike_anyOf {fs gs : List Formula} (h : List.Forall₂ Alike fs gs) :
    (anyOf fs).Alike (anyOf gs) := by
  cases h with
  | nil => exact .refl _
  | @cons f g fs gs hfg hrest =>
    have hboth : fs.flatMap atoms = gs.flatMap atoms ∧
        ∀ τ, fs.map (value τ) = gs.map (value τ) := by
      induction hrest with
      | nil => exact ⟨rfl, fun _ => rfl⟩
      | cons h _ ih =>
        constructor
        · rw [List.flatMap_cons, List.flatMap_cons, h.atoms, ih.1]
        · intro τ
          rw [List.map_cons, List.map_cons, h.value, ih.2]
    constructor
    · rw [anyOf, anyOf, atoms_foldl_or, atoms_foldl_or, hfg.atoms, hboth.1]
    · intro τ
      rw [anyOf, anyOf, value_foldl_or, value_foldl_or, hfg.value, hboth.2]

/-! ### Conjunctions -/

variable {is js : List Item} {i : Item}

lemma conjuncts_ne_nil (waiting : Bool) (is : List Item) : conjuncts waiting is ≠ [] := by
  cases is with
  | nil => simp [conjuncts]
  | cons i is =>
    rw [conjuncts]
    split
    · simp
    · simpa using conjuncts_ne_nil (awaits waiting i) is

/-- An AND outside parentheses that no BETWEEN waits for divides the conjunction. -/
lemma conjuncts_append {waiting : Bool} (hi : i.isKeyword "AND" = true)
    (h : is.foldl awaits waiting = false) :
    conjuncts waiting (is ++ i :: js) = conjuncts waiting is ++ conjuncts false js := by
  induction is generalizing waiting with
  | nil =>
    obtain rfl : waiting = false := h
    simp [conjuncts, awaits, hi]
  | cons k is ih =>
    rw [List.cons_append, conjuncts, conjuncts, ih h]
    split
    · rfl
    · obtain ⟨part, parts, hparts⟩ :=
        List.exists_cons_of_ne_nil (conjuncts_ne_nil (awaits waiting k) is)
      rw [hparts]
      rfl

/-- A conjunction is read part by part, if no BETWEEN waits at its end. -/
lemma ofConjunction?_eq_some {f : Formula} : ofConjunction? is = some f ↔
    is.foldl awaits false = false ∧
      ∃ fs, (conjuncts false is).mapM ofPredicate? = some fs ∧ combine and fs = some f := by
  unfold ofConjunction?
  split
  · rename_i h
    simp [h]
  · rename_i h
    rw [Option.bind_eq_some_iff]
    simp [h]

/-- Two conjunctions with AND between them. -/
lemma ofConjunction?_append {f g : Formula} (hi : i.isKeyword "AND" = true)
    (hf : ofConjunction? is = some f) (hg : ofConjunction? js = some g) :
    ∃ h, ofConjunction? (is ++ i :: js) = some h ∧ h.Alike (f.and g) := by
  obtain ⟨his, fs, hfs, hcf⟩ := ofConjunction?_eq_some.mp hf
  obtain ⟨hjs, gs, hgs, hcg⟩ := ofConjunction?_eq_some.mp hg
  have hmapM : (conjuncts false (is ++ i :: js)).mapM ofPredicate? = some (fs ++ gs) := by
    rw [conjuncts_append hi his, List.mapM_append, hfs, hgs]
    rfl
  have hawaits : (is ++ i :: js).foldl awaits false = false := by
    simp [his, awaits, hi, hjs]
  match fs, gs with
  | [], _ => simp [combine] at hcf
  | _, [] => simp [combine] at hcg
  | f₀ :: fs, g₀ :: gs =>
    obtain rfl := Option.some.inj hcf
    obtain rfl := Option.some.inj hcg
    refine ⟨(fs ++ g₀ :: gs).foldl and f₀, ofConjunction?_eq_some.mpr ⟨hawaits, _, hmapM, rfl⟩, ?_⟩
    constructor
    · simp [atoms_foldl_and, atoms]
    · intro τ
      simp [value_foldl_and, value, Truth.and_assoc]

/-! ### Disjunctions -/

/-- These items are read as a conjunction that means the same as this formula. -/
def ReadsPart (is : List Item) (p : Formula) : Prop := ∃ f, ofConjunction? is = some f ∧ f.Alike p

/-- The items are no query, and they are read as the disjunction of these parts. -/
def Reads (is : List Item) (parts : List Formula) : Prop :=
  isQuery is = false ∧ List.Forall₂ ReadsPart (disjuncts is) parts

variable {ps qs : List Formula} {p q : Formula} {ts : List Token}

lemma Reads.parts_ne_nil (h : Reads is ps) : ps ≠ [] := by
  rintro rfl
  exact List.splitOnP_ne_nil _ _ (List.forall₂_nil_right_iff.mp h.2)

lemma Reads.ne_nil (h : Reads is ps) : is ≠ [] := by
  rintro rfl
  obtain ⟨p, -, ⟨f, hf, -⟩, -⟩ := List.forall₂_cons_left_iff.mp h.2
  have hnone : ofConjunction? [] = none := rfl
  simp [hnone] at hf

lemma isQuery_append (h : is ≠ []) : isQuery (is ++ js) = isQuery is := by
  obtain ⟨k, is, rfl⟩ := List.exists_cons_of_ne_nil h
  rfl

/-- A disjunction of parts that can be read is read part by part. -/
lemma exists_mapM_ofConjunction? {parts : List (List Item)} (h : List.Forall₂ ReadsPart parts ps) :
    ∃ fs, parts.mapM ofConjunction? = some fs ∧ List.Forall₂ Alike fs ps := by
  induction h with
  | nil => exact ⟨[], rfl, .nil⟩
  | cons hpart _ ih =>
    obtain ⟨f, hf, halike⟩ := hpart
    obtain ⟨fs, hfs, hrest⟩ := ih
    exact ⟨f :: fs, by rw [List.mapM_cons, hf, hfs]; rfl, .cons halike hrest⟩

/-- What is read is the disjunction of the parts. -/
lemma Reads.exists_ofItems? (h : Reads is ps) :
    ∃ f, ofItems? is = some f ∧ f.Alike (anyOf ps) := by
  obtain ⟨hquery, hparts⟩ := h
  obtain ⟨fs, hfs, halike⟩ := exists_mapM_ofConjunction? hparts
  have hne : ps ≠ [] := Reads.parts_ne_nil ⟨hquery, hparts⟩
  cases halike with
  | nil => exact absurd rfl hne
  | @cons f p fs ps hf hrest =>
    refine ⟨fs.foldl Formula.or f, ?_, alike_anyOf (.cons hf hrest)⟩
    rw [ofItems?, hquery, hfs]
    rfl

/-- Items without OR that are read as a conjunction have this one part. -/
lemma reads_of_conjunction (hquery : isQuery is = false)
    (hor : ∀ k ∈ is, k.isKeyword "OR" = false) (h : ofConjunction? is = some p) :
    Reads is [p] := by
  refine ⟨hquery, ?_⟩
  rw [disjuncts, List.splitOnP_eq_singleton hor]
  exact .cons ⟨p, h, .refl p⟩ .nil

/-- With OR between two texts, the parts of both are the parts of the whole. -/
lemma Reads.or (h : Reads is ps) (h' : Reads js qs) (hi : i.isKeyword "OR" = true) :
    Reads (is ++ i :: js) (ps ++ qs) := by
  refine ⟨by rw [isQuery_append h.ne_nil, h.1], ?_⟩
  rw [disjuncts, List.splitOnP_append_cons _ _ hi]
  exact List.rel_append h.2 h'.2

/-- Where two texts are put together, the last part of one and the first of the other meet. -/
lemma splitOnP_append {α : Type*} {p : α → Bool} {xs ys : List α} {as bs : List (List α)}
    {a b : List α} (hxs : xs.splitOnP p = as ++ [a]) (hys : ys.splitOnP p = b :: bs) :
    (xs ++ ys).splitOnP p = as ++ (a ++ b) :: bs := by
  induction xs generalizing as a with
  | nil =>
    rw [List.splitOnP_nil] at hxs
    obtain ⟨rfl, h⟩ := List.append_eq_singleton_iff.mp hxs.symm |>.resolve_right (by simp)
    obtain rfl := List.singleton_inj.mp h
    simpa using hys
  | cons x xs ih =>
    rw [List.splitOnP_cons_eq_if_modifyHead] at hxs
    rw [List.cons_append, List.splitOnP_cons_eq_if_modifyHead]
    obtain ⟨cs, c, hcs⟩ := (List.eq_nil_or_concat' (xs.splitOnP p)).resolve_left
      (List.splitOnP_ne_nil p xs)
    rw [ih hcs]
    rw [hcs] at hxs
    split at hxs
    · rename_i hx
      rw [← List.cons_append] at hxs
      obtain ⟨rfl, h⟩ := List.append_inj' hxs rfl
      obtain rfl := List.singleton_inj.mp h
      rw [if_pos hx]
      rfl
    · rename_i hx
      rw [if_neg hx]
      cases cs with
      | nil =>
        have hone : [] ++ [x :: c] = as ++ [a] := hxs
        obtain ⟨rfl, h⟩ := List.append_inj' hone rfl
        obtain rfl := List.singleton_inj.mp h
        rfl
      | cons c' cs =>
        rw [List.cons_append, List.modifyHead_cons, ← List.cons_append] at hxs
        obtain ⟨rfl, h⟩ := List.append_inj' hxs rfl
        obtain rfl := List.singleton_inj.mp h
        rfl

/-- With AND between two texts, the parts on both sides of it become one. -/
lemma Reads.and (h : Reads is (ps ++ [p])) (h' : Reads js (q :: qs))
    (hi : i.isKeyword "AND" = true) (hor : i.isKeyword "OR" = false) :
    Reads (is ++ i :: js) (ps ++ p.and q :: qs) := by
  refine ⟨by rw [isQuery_append h.ne_nil, h.1], ?_⟩
  obtain ⟨b, bs, ⟨g, hg, hq⟩, hbs, hjs⟩ := List.forall₂_cons_right_iff.mp h'.2
  have hlast := List.forall₂_drop_append _ _ _ h.2
  obtain ⟨a, as, ⟨f, hf, hp⟩, hnil, hlast⟩ := List.forall₂_cons_right_iff.mp hlast
  obtain rfl := List.forall₂_nil_right_iff.mp hnil
  have his : (disjuncts is).take ps.length ++ [a] = disjuncts is := by
    rw [← hlast, List.take_append_drop]
  have hi_js : (i :: js).splitOnP (Item.isKeyword "OR") = (i :: b) :: bs := by
    rw [disjuncts] at hjs
    rw [List.splitOnP_cons_eq_if_modifyHead, hor, hjs]
    rfl
  -- the first parts of one side and the last parts of the other are not touched
  obtain ⟨k, hk, halike⟩ := ofConjunction?_append hi hf hg
  rw [disjuncts, splitOnP_append his.symm hi_js]
  refine List.rel_append (List.forall₂_take_append _ _ _ h.2) (.cons ⟨k, hk, ?_⟩ hbs)
  apply halike.trans
  constructor
  · simp [atoms, hp.atoms, hq.atoms]
  · intro τ
    rw [value, value, hp.value, hq.value]

/-- Parentheses make one part of what stands in them. -/
lemma Reads.group (h : Reads is ps) : Reads [.group ts (ofGroup? is)] [anyOf ps] := by
  obtain ⟨f, hf, halike⟩ := h.exists_ofItems?
  refine ⟨rfl, .cons ⟨f, ?_, halike⟩ .nil⟩
  rw [ofGroup?, h.1, hf]
  rfl

/-- A negated text in parentheses is one part. -/
lemma Reads.not (h : Reads is ps) (hi : i = .token (.word "NOT".toList)) :
    Reads [i, .group ts (ofGroup? is)] [(anyOf ps).not] := by
  subst hi
  obtain ⟨f, hf, halike⟩ := h.exists_ofItems?
  refine ⟨rfl, .cons ⟨f.not, ?_, halike.atoms, fun τ => by simp [value, halike.value]⟩ .nil⟩
  rw [ofGroup?, h.1, hf]
  rfl

end Formula

/-! ### Atomic predicates -/

/-- Whether an item is no connective between predicates, and no BETWEEN. -/
def Item.isPlain (i : Item) : Bool :=
  !i.isKeyword "AND" && !i.isKeyword "OR" && !i.isKeyword "BETWEEN"

/-- Items that a predicate may start with: all plain, and neither a negation nor a query. -/
structure IsOperand (is : List Item) : Prop where
  plain : ∀ i ∈ is, i.isPlain = true
  ne_nil : is ≠ []
  head : ∀ i ∈ is.head?, i.isKeyword "NOT" = false ∧ i.isKeyword "SELECT" = false

variable {is js ks : List Item} {i j : Item}

/-- Plain items at the end leave an operand one. -/
lemma IsOperand.append (h : IsOperand is) (hjs : ∀ j ∈ js, j.isPlain = true) :
    IsOperand (is ++ js) where
  plain := by
    intro i hi
    rcases List.mem_append.mp hi with hi | hi
    · exact h.plain i hi
    · exact hjs i hi
  ne_nil := by simp [h.ne_nil]
  head := by
    rw [List.head?_append_of_ne_nil _ h.ne_nil]
    exact h.head

namespace Formula

lemma isPlain_iff : i.isPlain = true ↔
    i.isKeyword "AND" = false ∧ i.isKeyword "OR" = false ∧ i.isKeyword "BETWEEN" = false := by
  simp [Item.isPlain, and_assoc]

/-- Plain items belong to the part that they stand in. -/
lemma conjuncts_plain_append {waiting : Bool} (h : ∀ i ∈ is, i.isPlain = true) :
    conjuncts waiting (is ++ js) = (conjuncts waiting js).modifyHead (is ++ ·) := by
  induction is with
  | nil => exact (congrFun List.modifyHead_id _).symm
  | cons k is ih =>
    rw [List.forall_mem_cons] at h
    obtain ⟨hand, -, hbetween⟩ := isPlain_iff.mp h.1
    have hawaits : awaits waiting k = waiting := by simp [awaits, hand, hbetween]
    rw [List.cons_append, conjuncts, hand, hawaits, ih h.2, List.modifyHead_modifyHead]
    rfl

lemma foldl_awaits_plain {waiting : Bool} (h : ∀ i ∈ is, i.isPlain = true) :
    is.foldl awaits waiting = waiting := by
  induction is with
  | nil => rfl
  | cons k is ih =>
    rw [List.forall_mem_cons] at h
    obtain ⟨hand, -, hbetween⟩ := isPlain_iff.mp h.1
    have hawaits : awaits waiting k = waiting := by simp [awaits, hand, hbetween]
    rw [List.foldl_cons, hawaits, ih h.2]

/-- More than one item, the first of which is no NOT, is an atomic predicate. -/
lemma ofPredicate?_eq_atom (h : ∀ k ∈ is.head?, k.isKeyword "NOT" = false)
    (hlength : 1 < is.length) : ofPredicate? is = some (.atom (is.flatMap Item.tokens)) := by
  match is with
  | [] | [_] => simp at hlength
  | k :: l :: is =>
    have hk : k.isKeyword "NOT" = false := h k rfl
    cases k <;> simp [ofPredicate?, hk]

lemma isQuery_eq_false (h : IsOperand is) : isQuery is = false := by
  obtain ⟨k, ks, rfl⟩ := List.exists_cons_of_ne_nil h.ne_nil
  exact (h.head k rfl).2

/-- Items that are one part of a conjunction are read as an atomic predicate. -/
lemma reads_of_conjuncts (h : IsOperand is) (hne : js ≠ [])
    (hor : ∀ k ∈ js, k.isKeyword "OR" = false) (hawaits : js.foldl awaits false = false)
    (hone : conjuncts false js = [js]) :
    Reads (is ++ js) [.atom ((is ++ js).flatMap Item.tokens)] := by
  have hlength : 1 < (is ++ js).length := by
    have := List.length_pos_of_ne_nil h.ne_nil
    have := List.length_pos_of_ne_nil hne
    rw [List.length_append]
    omega
  have hatom : ofPredicate? (is ++ js) = some (.atom ((is ++ js).flatMap Item.tokens)) := by
    refine ofPredicate?_eq_atom ?_ hlength
    intro k hk
    rw [List.head?_append_of_ne_nil _ h.ne_nil] at hk
    exact (h.head k hk).1
  refine reads_of_conjunction ?_ ?_ (ofConjunction?_eq_some.mpr ⟨?_, [_], ?_, rfl⟩)
  · rw [isQuery_append h.ne_nil, isQuery_eq_false h]
  · intro k hk
    rcases List.mem_append.mp hk with hk | hk
    · exact (isPlain_iff.mp (h.plain k hk)).2.1
    · exact hor k hk
  · rw [List.foldl_append, foldl_awaits_plain h.plain, hawaits]
  · rw [conjuncts_plain_append h.plain, hone, List.modifyHead_cons, List.mapM_cons, hatom]
    rfl

/-- An operand with more plain items after it is an atomic predicate. -/
lemma reads_atom (h : IsOperand is) (hne : js ≠ []) (hjs : ∀ j ∈ js, j.isPlain = true) :
    Reads (is ++ js) [.atom ((is ++ js).flatMap Item.tokens)] := by
  refine reads_of_conjuncts h hne (fun k hk => (isPlain_iff.mp (hjs k hk)).2.1)
    (foldl_awaits_plain hjs) ?_
  have hall : conjuncts false (js ++ []) = (conjuncts false []).modifyHead (js ++ ·) :=
    conjuncts_plain_append hjs
  rw [List.append_nil] at hall
  rw [hall]
  simp [conjuncts]

/-- The AND of a BETWEEN belongs to it. -/
lemma reads_between (h : IsOperand is) (hi : i = .token (.word "BETWEEN".toList))
    (hj : j = .token (.word "AND".toList)) (hjs : ∀ k ∈ js, k.isPlain = true)
    (hks : ∀ k ∈ ks, k.isPlain = true) :
    Reads (is ++ i :: (js ++ j :: ks))
      [.atom ((is ++ i :: (js ++ j :: ks)).flatMap Item.tokens)] := by
  subst hi hj
  refine reads_of_conjuncts h (by simp) ?_ ?_ ?_
  · intro k hk
    rw [List.mem_cons, List.mem_append, List.mem_cons] at hk
    rcases hk with rfl | hk | rfl | hk
    · rfl
    · exact (isPlain_iff.mp (hjs k hk)).2.1
    · rfl
    · exact (isPlain_iff.mp (hks k hk)).2.1
  · rw [List.foldl_cons, List.foldl_append, foldl_awaits_plain hjs, List.foldl_cons]
    exact foldl_awaits_plain hks
  · have hks' : conjuncts false (ks ++ []) = (conjuncts false []).modifyHead (ks ++ ·) :=
      conjuncts_plain_append hks
    rw [List.append_nil] at hks'
    have hafter : conjuncts true (.token (.word "AND".toList) :: ks) =
        [.token (.word "AND".toList) :: ks] := by
      rw [conjuncts]
      have hawaits : awaits true (.token (.word "AND".toList)) = false := rfl
      rw [hawaits, hks']
      simp [conjuncts]
    rw [conjuncts]
    have hawaits : awaits false (.token (.word "BETWEEN".toList)) = true := rfl
    rw [hawaits, conjuncts_plain_append hjs, hafter]
    rfl

end Formula

end SqlCompose
