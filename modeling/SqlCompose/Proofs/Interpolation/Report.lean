import Mathlib
import SqlCompose.Connection.Basic
import SqlCompose.Proofs.Interpolation.Token
import SqlCompose.Proofs.Params
import SqlCompose.Proofs.PseudoSyntax.Sent

/-!
# Commands as they are reported

A command is reported with literals for its parameters, which are put in one after the other, longer
names first. So a name is never taken for the start of a longer one. What is put in is looked at
again, though: the report is the text with the literal of each parameter in its place exactly if no
parameter that is put in later has its name in the literal of an earlier one.
-/

namespace SqlCompose

/-! ### Literals -/

/-- No literal starts with a colon. -/
lemma startsBare_literal (d : Dialect) (v : Value) : StartsBare (d.literal v).toList := by
  obtain h | ⟨s, hs⟩ := isInertText_literal_or d v
  · obtain ⟨c, rest, hliteral⟩ := List.exists_cons_of_ne_nil h.ne_nil
    refine ⟨c, rest, hliteral, ?_⟩
    rintro rfl
    have hall := h.all
    rw [hliteral, List.all_cons] at hall
    cases hall
  · rw [hs, Dialect.quoteText, String.toList_ofList]
    exact ⟨_, _, rfl, by decide⟩

/-! ### Whole tokens, decided -/

lemma areWholeIn_iff {tokens : List (List Char)} {s : List Char} :
    (∀ token ∈ tokens, ∀ i ∈ List.range (s.length + 1), token <+: s.drop i →
      (s.take i).getLast?.all (!isTokenPart ·) = true ∧
        token ++ ((s.drop i).drop token.length).takeWhile SqlToken.isNameChar ∈ tokens) ↔
      AreWholeIn tokens s := by
  simp only [Option.all_eq_true, Bool.not_eq_true']
  constructor
  · rintro h token htoken before after rfl
    have hdrop : (before ++ token ++ after).drop before.length = token ++ after := by
      rw [List.append_assoc, List.drop_left]
    have htake : (before ++ token ++ after).take before.length = before := by
      rw [List.append_assoc, List.take_left]
    have hplace := h token htoken before.length (by simp)
    rw [hdrop, htake, List.drop_left] at hplace
    exact hplace (List.prefix_append token after)
  · rintro h token htoken i - ⟨after, hafter⟩
    have hs : s = s.take i ++ token ++ after := by
      rw [List.append_assoc, hafter, List.take_append_drop]
    rw [← hafter, List.drop_left]
    exact h token htoken _ after hs

instance (tokens : List (List Char)) (s : List Char) : Decidable (AreWholeIn tokens s) :=
  decidable_of_iff _ areWholeIn_iff

namespace Command

variable (cmd : Command)

/-- The replacements that are made for a report, in order. -/
def replacements : List Replacement :=
  cmd.paramsByLength.map fun (name, v) => ⟨name.toList, (cmd.connection.dialect.literal v).toList⟩

/-- The text with the literal of its own value in the place of each token that is a parameter. -/
def interpolated : String :=
  .ofList (interpolate (fun token => (cmd.params.get? (.ofList token)).map fun v =>
    (cmd.connection.dialect.literal v).toList) cmd.sql.toList)

/-- The text for a report is made by replacing one parameter after the other. -/
lemma rawSql_eq : cmd.rawSql = .ofList (replaceEach cmd.replacements cmd.sql.toList) := by
  rw [rawSql, replacements]
  generalize cmd.sql = sql
  induction cmd.paramsByLength generalizing sql with
  | nil => exact String.ofList_toList.symm
  | cons entry entries ih =>
    have hstep := ih (Text.replace entry.1 (cmd.connection.dialect.literal entry.2) sql)
    rw [Text.replace, String.toList_ofList] at hstep
    exact hstep

lemma perm_paramsByLength : cmd.paramsByLength.Perm cmd.params.toList := List.mergeSort_perm _ _

lemma nodup_paramsByLength : (cmd.paramsByLength.map Prod.fst).Nodup :=
  (cmd.perm_paramsByLength.map Prod.fst).nodup_iff.mpr cmd.params.nodup_names

/-- The tokens that are replaced are the names of the parameters. -/
lemma mem_replacements_token {token : List Char} :
    token ∈ cmd.replacements.map Replacement.token ↔
      token ∈ cmd.params.names.map String.toList := by
  have hperm := (cmd.perm_paramsByLength.map Prod.fst).map String.toList
  rw [Params.names_eq_map, ← hperm.mem_iff, replacements, List.map_map, List.map_map]
  rfl

/-- The text that is put for a token is the literal of its own value. -/
lemma textFor?_replacements (name : List Char) :
    textFor? cmd.replacements (':' :: name) = (cmd.params.get? (.ofList (':' :: name))).map fun v =>
      (cmd.connection.dialect.literal v).toList := by
  have hlookup : cmd.params.get? (.ofList (':' :: name)) =
      cmd.paramsByLength.lookup (.ofList (':' :: name)) := by
    have hnormalize : Params.normalize (.ofList (':' :: name)) = .ofList (':' :: name) := by
      simp [Params.normalize]
    ext v
    rw [lookup_eq_some_iff_mem cmd.nodup_paramsByLength, cmd.perm_paramsByLength.mem_iff,
      Params.get?, hnormalize]
    exact lookup_eq_some_iff_mem cmd.params.map.nodup
  rw [hlookup, replacements]
  induction cmd.paramsByLength with
  | nil => rfl
  | cons entry entries ih =>
    obtain ⟨other, v⟩ := entry
    rw [List.map_cons, textFor?, List.lookup_cons, ih]
    by_cases h : other.toList = ':' :: name
    · simp [← h]
    · have hname : (String.ofList (':' :: name) == other) = false := by
        rw [beq_eq_false_iff_ne]
        rintro rfl
        exact h String.toList_ofList
      rw [if_neg h, hname]

/-- The interpolated text replaces all parameters at once. -/
lemma interpolated_eq :
    cmd.interpolated = .ofList (interpolate (textFor? cmd.replacements) cmd.sql.toList) := by
  rw [interpolated, interpolate_congr fun name => (cmd.textFor?_replacements name).symm]

/-- The name of a parameter is no start of the name of a later one. -/
lemma pairwise_replacements :
    cmd.replacements.Pairwise fun step later => ¬step.token <+: later.token := by
  have hsize : cmd.paramsByLength.Pairwise fun a b => b.1.utf8ByteSize ≤ a.1.utf8ByteSize := by
    have hsorted : cmd.paramsByLength.Pairwise fun a b =>
        decide (b.1.utf8ByteSize ≤ a.1.utf8ByteSize) = true :=
      List.pairwise_mergeSort
        (fun a b c hab hbc => by simp only [decide_eq_true_eq] at *; omega)
        (fun a b => by simp only [Bool.or_eq_true, decide_eq_true_eq]; omega) _
    exact hsorted.imp of_decide_eq_true
  have hne : cmd.paramsByLength.Pairwise fun a b => a.1 ≠ b.1 :=
    List.pairwise_map.mp cmd.nodup_paramsByLength
  rw [replacements, List.pairwise_map]
  refine hsize.imp₂ (fun a b hsize hne => ?_) hne
  rintro ⟨rest, hrest⟩
  have hname : b.1 = a.1 ++ .ofList rest := by
    apply String.toList_injective
    rw [String.toList_append, String.toList_ofList]
    exact hrest.symm
  rw [hname, String.utf8ByteSize_append] at hsize
  have hempty : String.ofList rest = "" := String.utf8ByteSize_eq_zero_iff.mp (by omega)
  rw [hempty, String.append_empty] at hname
  exact hne hname.symm

/-- Where the parameters stand in the text as whole tokens only, the report has for each of them its
literal as the later replacements leave it. So it is the text with the literals themselves exactly
if no later name stands in the literal of a parameter of the text. -/
theorem rawSql_eq_interpolated_iff (htokens : ∀ name ∈ cmd.params.names, IsToken name.toList)
    (hwhole : AreWholeIn (cmd.params.names.map String.toList) cmd.sql.toList) :
    cmd.rawSql = .ofList (interpolate (resultFor? cmd.replacements) cmd.sql.toList) ∧
    (cmd.rawSql = cmd.interpolated ↔ cmd.paramsByLength.Pairwise fun e later =>
      e.1.toList ∈ tokensOf cmd.sql.toList →
        ¬later.1.toList <:+: (cmd.connection.dialect.literal e.2).toList) := by
  have hsteps : ∀ step ∈ cmd.replacements, step.IsProper := by
    intro step hstep
    obtain ⟨name, hname, htoken⟩ :=
      List.mem_map.mp (cmd.mem_replacements_token.mp (List.mem_map_of_mem hstep))
    refine ⟨htoken ▸ htokens name hname, ?_⟩
    obtain ⟨e, -, rfl⟩ := List.mem_map.mp hstep
    exact startsBare_literal _ _
  have hwhole' : AreWholeIn (cmd.replacements.map Replacement.token) cmd.sql.toList := by
    intro token htoken before after hs
    rw [mem_replacements_token] at htoken ⊢
    exact hwhole token htoken before after hs
  constructor
  · rw [rawSql_eq, replaceEach_eq_interpolate hsteps cmd.pairwise_replacements hwhole']
  · rw [rawSql_eq, interpolated_eq, String.ofList_inj,
      replaceEach_eq_interpolate_iff hsteps cmd.pairwise_replacements hwhole', replacements,
      List.pairwise_map]

/-- A value with the name of another parameter in it: its literal is not left as it is. -/
theorem rawSql_eq_interpolated_iff_nameInValue :
    let cmd : Command := {
      connection := { dialect := .mysql, tablePrefix := "", schema := none, inlineValues := false }
      source := "SELECT :a, :b"
      params := .ofList [(":a", .text "x:b"), (":b", .int 1)] }
    cmd.rawSql = "SELECT 'x1', 1" ∧ cmd.interpolated = "SELECT 'x:b', 1" ∧
      ¬cmd.paramsByLength.Pairwise fun e later =>
        e.1.toList ∈ tokensOf cmd.sql.toList →
          ¬later.1.toList <:+: (cmd.connection.dialect.literal e.2).toList := by
  intro cmd
  have hsql : cmd.sql = "SELECT :a, :b" := by decide +kernel
  have hnames : cmd.params.names = [":a", ":b"] := by decide +kernel
  have hsorted : cmd.paramsByLength = [(":a", .text "x:b"), (":b", .int 1)] :=
    List.mergeSort_of_pairwise (by decide)
  have hreport : cmd.rawSql = "SELECT 'x1', 1" := by
    rw [rawSql, hsorted, hsql]
    decide +kernel
  have hliterals : cmd.interpolated = "SELECT 'x:b', 1" := by decide +kernel
  have htokens : ∀ name ∈ cmd.params.names, IsToken name.toList := by
    rw [hnames, List.forall_mem_cons, List.forall_mem_singleton]
    exact ⟨⟨['a'], rfl, List.forall_mem_singleton.mpr (by decide)⟩,
      ⟨['b'], rfl, List.forall_mem_singleton.mpr (by decide)⟩⟩
  have hwhole : AreWholeIn (cmd.params.names.map String.toList) cmd.sql.toList := by
    rw [hnames, hsql]
    decide +kernel
  refine ⟨hreport, hliterals, fun h => ?_⟩
  have heq := (cmd.rawSql_eq_interpolated_iff htokens hwhole).2.mpr h
  rw [hreport, hliterals] at heq
  exact absurd heq (by decide)

end Command

end SqlCompose
