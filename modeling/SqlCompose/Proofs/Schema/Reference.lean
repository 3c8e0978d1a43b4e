import Mathlib
import SqlCompose.Proofs.PseudoSyntax.Table
import SqlCompose.Proofs.Schema.Setting
import SqlCompose.Proofs.Text.Split

/-!
# Schemas of tables named by references

Where a reference has a percent sign, a connection puts its prefix when it sends the statement. The
registry of tables looks the reference up with the sign in it. So an insert or an update that names
its table by a reference reaches the same table as one that names it in full, but its values are not
cast to the types of the columns of that table.
-/

namespace SqlCompose

open Fragment

/-- Word characters only. -/
def IsWord (cs : List Char) : Prop := ∀ c ∈ cs, isWordChar c = true

section

variable {cs : List Char} {x : Char}

lemma IsWord.not_mem (h : IsWord cs) (hx : isWordChar x = false) : x ∉ cs := by
  intro hmem
  rw [h x hmem] at hx
  cases hx

lemma IsWord.append {s t : String} (hs : IsWord s.toList) (ht : IsWord t.toList) :
    IsWord (s ++ t).toList := by
  rw [String.toList_append]
  exact List.forall_mem_append.mpr ⟨hs, ht⟩

lemma IsWord.isName (h : IsWord cs) (hne : cs ≠ []) : Reference.IsName cs where
  ne_nil := hne
  all c hc := by simp [Reference.isNameChar, h c hc]

end

/-! ### Looking a table up -/

namespace SchemaRegistry

variable {r : SchemaRegistry} {c : Char} {s : List Char}

/-- A text that does not start with a pair loses nothing. -/
lemma dropPairs_eq_self (h : s.head? ≠ some c) : dropPairs c s = s := by
  unfold dropPairs
  split
  · rename_i a b rest
    rw [if_neg]
    rintro ⟨rfl, -⟩
    exact h rfl
  · rfl

lemma dropPairs_cons_cons (h : s.head? ≠ some c) : dropPairs c (c :: c :: s) = s := by
  rw [dropPairs, if_pos ⟨rfl, rfl⟩, dropPairs_eq_self h]

/-- A name of word characters is looked up as it is. -/
lemma tableSchema?_of_isWord {n : String} (h : IsWord n.toList) :
    r.tableSchema? n = r.findTable? n := by
  have hbrace : '\x7b' ∉ n.toList ∧ '\x7d' ∉ n.toList :=
    ⟨h.not_mem (by decide), h.not_mem (by decide)⟩
  have hunbrace : unbrace n = n.toList := by
    have hopen : n.toList.head? ≠ some '\x7b' := fun hhead =>
      hbrace.1 (List.mem_of_head? hhead)
    have hclose : n.toList.reverse.head? ≠ some '\x7d' := fun hhead =>
      hbrace.2 (List.mem_reverse.mp (List.mem_of_head? hhead))
    rw [unbrace, dropPairs_eq_self hopen, dropPairs_eq_self hclose, List.reverse_reverse]
  have hdot : '.' ∉ n.toList := h.not_mem (by decide)
  have hfirst := Chars.splitFirst_eq_none_iff.mpr ((List.singleton_infix_iff _ _).not.mpr hdot)
  simp only [tableSchema?, hunbrace, hfirst, String.ofList_toList]

/-- A reference is looked up with its percent sign. -/
lemma tableSchema?_afterPrefix {t : String} (h : IsWord t.toList) :
    r.tableSchema? (.ofList (Reference.afterPrefix t.toList).chars) =
      r.findTable? ("%" ++ t) := by
  have hunbrace : unbrace (.ofList (Reference.afterPrefix t.toList).chars) = '%' :: t.toList := by
    have hopen : ('%' :: (t.toList ++ ['\x7d', '\x7d'])).head? ≠ some '\x7b' := by simp
    have hclose : ('%' :: t.toList).reverse.head? ≠ some '\x7d' := by
      intro hhead
      have hmem : '\x7d' ∈ '%' :: t.toList := List.mem_reverse.mp (List.mem_of_head? hhead)
      exact h.not_mem (by decide) ((List.mem_cons.mp hmem).resolve_left (by decide))
    have hreverse : ('%' :: (t.toList ++ ['\x7d', '\x7d'])).reverse =
        '\x7d' :: '\x7d' :: ('%' :: t.toList).reverse := by simp
    rw [unbrace, String.toList_ofList, Reference.afterPrefix, Reference.chars, List.cons_append,
      dropPairs_cons_cons hopen, hreverse, dropPairs_cons_cons hclose, List.reverse_reverse]
  have hdot : '.' ∉ '%' :: t.toList := by
    rw [List.mem_cons, not_or]
    exact ⟨by decide, h.not_mem (by decide)⟩
  have hname : String.ofList ('%' :: t.toList) = "%" ++ t := by
    apply String.toList_injective
    simp
  have hfirst := Chars.splitFirst_eq_none_iff.mpr ((List.singleton_infix_iff _ _).not.mpr hdot)
  simp only [tableSchema?, hunbrace, hfirst, hname]

end SchemaRegistry

/-! ### What is sent -/

namespace Dialect

variable {d : Dialect} {tablePrefix name : String} {cs : List Char}

lemma toList_quoteTable_of_isWord (h : IsWord name.toList) :
    (d.quoteTable name).toList = d.enclosed name.toList := by
  have hverbatim : isVerbatimName name = false := by
    apply isVerbatimName_of_not_mem (h.not_mem (by decide))
    intro x hx
    rcases List.mem_pair.mp hx with rfl | rfl <;> exact h.not_mem (by decide)
  have hopen : d.nameQuotes.1 ∉ name.toList := h.not_mem (by cases d <;> decide)
  rw [toList_quoteTable hverbatim, List.splitOn_eq_singleton (h.not_mem (by decide))]
  simp [nameChars, partChars, hopen]

/-- A quoted word stays as it is, whatever comes after it. -/
lemma resolveFrom_enclosed_append (h : IsWord cs) (hne : cs ≠ []) (rest : List Char) :
    Reference.resolveFrom d tablePrefix 0 (d.enclosed cs ++ rest) =
      d.enclosed cs ++ Reference.resolveFrom d tablePrefix 0 rest := by
  have hbare : ∀ c ∈ cs ++ [d.nameQuotes.2], c ∉ openingBrackets := by
    rw [List.forall_mem_append, List.forall_mem_singleton]
    refine ⟨fun c hc hbracket => ?_, by cases d <;> decide⟩
    rcases List.mem_pair.mp hbracket with rfl | rfl <;> exact h.not_mem (by decide) hc
  have hnone : Reference.ofChars? (d.nameQuotes.1 :: (cs ++ [d.nameQuotes.2] ++ rest)) = none := by
    apply Reference.ofChars?_cons_eq_none
    intro _ hhead
    obtain ⟨c, cs, rfl⟩ := List.exists_cons_of_ne_nil hne
    obtain rfl : c = d.nameQuotes.1 := Option.some.inj hhead
    exact h.not_mem (by cases d <;> decide) List.mem_cons_self
  rw [enclosed, List.cons_append, Reference.resolveFrom, hnone]
  exact congrArg (_ :: ·) (Reference.resolveFrom_bare_append hbare rest)

/-- A table that is named by a reference is sent as one that is named in full. -/
lemma quoteSql_reference {t before : String} (hp : IsWord tablePrefix.toList)
    (ht : IsWord t.toList) (hne : t.toList ≠ [])
    (hbefore : ∀ c ∈ before.toList, c ∉ openingBrackets) (after : String) :
    d.quoteSql tablePrefix
        (before ++ d.quoteTable (.ofList (Reference.afterPrefix t.toList).chars) ++ after) =
      d.quoteSql tablePrefix (before ++ d.quoteTable (tablePrefix ++ t) ++ after) := by
  have hname : IsWord (tablePrefix ++ t).toList := hp.append ht
  have hne' : (tablePrefix ++ t).toList ≠ [] := by
    rw [String.toList_append]
    exact List.append_ne_nil_of_right_ne_nil _ hne
  have hverbatim := isVerbatimName_of_braces ('%' :: (t.toList ++ ['\x7d', '\x7d']))
  have hreference : d.quoteTable (.ofList (Reference.afterPrefix t.toList).chars) =
      .ofList (Reference.afterPrefix t.toList).chars := quoteTable_of_isVerbatimName hverbatim
  have hwritable := (ht.isName hne).isWritable_afterPrefix
  apply String.toList_injective
  simp only [quoteSql, String.toList_ofList, String.toList_append, List.append_assoc, hreference,
    Reference.resolveFrom_bare_append hbefore]
  rw [Reference.resolveFrom_chars_append d tablePrefix hwritable,
    resolve_afterPrefix (ht.isName hne), toList_quoteTable_of_isWord hname, resolveFrom_enclosed_append hname hne']

end Dialect

/-- A statement that sets columns names its table once, after a keyword. -/
lemma Setting.exists_fragment (d : Dialect) (w : Setting) :
    (∃ e, ∀ table, (w.into table).fragment d none = [.refusal e]) ∨
    ∃ before after rest, (∀ c ∈ before.toList, c ∉ openingBrackets) ∧
      ∀ table, (w.into table).fragment d none =
        .text (before ++ d.quoteTable table ++ after) :: rest := by
  have hassigned (table column : String) (operand : Operand) :
      assigned d none table column operand = assigned d none "" column operand := by
    cases operand <;> rfl
  have hinsert : ∀ c ∈ "INSERT INTO ".toList, c ∉ openingBrackets := by simp [openingBrackets]
  have hupdate : ∀ c ∈ "UPDATE ".toList, c ∉ openingBrackets := by simp [openingBrackets]
  cases w with
  | insert columns =>
    right
    by_cases hempty : columns.isEmpty = true
    · refine ⟨"INSERT INTO ", if d = .mysql then " () VALUES ()" else " DEFAULT VALUES", [],
        hinsert, fun table => ?_⟩
      rw [into, Statement.fragment, if_pos hempty]
      cases d <;> rfl
    · refine ⟨"INSERT INTO ", " " ++ nameList d (columns.map Prod.fst) ++ " VALUES ",
        bracket (join ", " (columns.map fun p => assigned d none "" p.1 p.2)), hinsert,
        fun table => ?_⟩
      rw [into, Statement.fragment, if_neg hempty]
      simp only [hassigned table, String.append_assoc]
  | update columns filter =>
    by_cases hempty : columns.isEmpty = true
    · left
      refine ⟨.validation "update needs at least one column", fun table => ?_⟩
      rw [into, Statement.fragment, if_pos hempty]
    · right
      refine ⟨"UPDATE ", " SET ", join ", " (columns.map fun p =>
        .text (d.quoteColumn p.1 ++ "=") :: assigned d none "" p.1 p.2) ++ whereClause d filter,
        hupdate, fun table => ?_⟩
      rw [into, Statement.fragment, if_neg hempty]
      simp only [hassigned table]

namespace Connection

variable {c : Connection} {t : String}

/-- What is sent for a written statement. -/
def sent (c : Connection) (out : Built) : Call := (Command.ofBuilt c out).execute.call

lemma sent_of (c : Connection) (sql : String) (params : Params) :
    c.sent (.of sql params) = ⟨.execute, c.quoteSql sql, params⟩ := by
  rw [sent, Command.ofBuilt, Built.allParams_of, Built.of]
  rfl

/-- Texts that resolve alike in front of the same fragment are sent alike. -/
lemma map_sent_ofFragment_congr {before before' : String} {f : Fragment} (inline : Bool)
    (names : List String)
    (h : ∀ text, c.quoteSql (before ++ text) = c.quoteSql (before' ++ text)) :
    (Built.ofFragment c.dialect inline names (.text before :: f)).map c.sent =
      (Built.ofFragment c.dialect inline names (.text before' :: f)).map c.sent := by
  rw [Built.ofFragment, Built.ofFragment, Binding.write, Binding.write]
  obtain ⟨text, binding⟩ := ((Binding.start c.dialect inline).reserve names).write f
  cases text with
  | error e => rfl
  | ok text => simp only [Except.map, sent_of, h]

/-- Without a schema, the two ways to name a table send the same. -/
lemma map_sent_build_reference (inline : Bool) (hp : IsWord c.tablePrefix.toList)
    (ht : IsWord t.toList) (hne : t.toList ≠ []) (w : Setting) :
    ((⟨c.dialect, none, inline⟩ : Builder).build
        (w.into (.ofList (Reference.afterPrefix t.toList).chars))).map c.sent =
      ((⟨c.dialect, none, inline⟩ : Builder).build (w.into (c.tablePrefix ++ t))).map c.sent := by
  have hnames (table table' : String) :
      (w.into table).suppliedNames = (w.into table').suppliedNames := by cases w <;> rfl
  rw [Builder.build, Builder.build, hnames _ (c.tablePrefix ++ t)]
  obtain ⟨e, hfragment⟩ | ⟨before, after, rest, hbefore, hfragment⟩ := w.exists_fragment c.dialect
  · rw [hfragment, hfragment]
  · rw [hfragment, hfragment]
    apply map_sent_ofFragment_congr
    intro text
    have hsql := Dialect.quoteSql_reference (d := c.dialect) hp ht hne hbefore (after ++ text)
    rwa [← String.append_assoc, ← String.append_assoc] at hsql

/-! ### What is bound -/

/-- Cast a value to the type of a column of a table, if both are known. -/
def castIn (table : Option TableSchema) (column : String) (v : Value) : Value :=
  match table.bind (·.column? column) with
  | some c => c.typecast v
  | none => v

section

variable {r : SchemaRegistry} {found : Option TableSchema} {table : String}

/-- Casting by the schema is casting by the table that is found there. -/
lemma castFor_eq_castIn (hr : c.schema = some r) (h : r.tableSchema? table = found) :
    castFor c.schema table = castIn found := by
  rw [hr, ← h]
  rfl

/-- With a schema, a statement is written as without one after the casts of the table that is
found. -/
lemma build_eq_of_found (hr : c.schema = some r) (h : r.tableSchema? table = found) (w : Setting) :
    c.builder.build (w.into table) =
      (⟨c.dialect, none, c.inlineValues⟩ : Builder).build
        ((w.castBy (castIn found)).into table) := by
  rw [← castFor_eq_castIn hr h]
  exact build_castBy c.builder w

/-- By a reference, the statement is sent with the casts of the table whose name has the sign. -/
lemma map_sent_build_byReference (hr : c.schema = some r) (hp : IsWord c.tablePrefix.toList)
    (ht : IsWord t.toList) (hne : t ≠ "") (w : Setting) :
    (c.builder.build (w.into ("\x7b\x7b%" ++ t ++ "\x7d\x7d"))).map c.sent =
      ((⟨c.dialect, none, c.inlineValues⟩ : Builder).build
        ((w.castBy (castIn (r.findTable? ("%" ++ t)))).into (c.tablePrefix ++ t))).map c.sent := by
  rw [Reference.text_afterPrefix,
    build_eq_of_found hr (SchemaRegistry.tableSchema?_afterPrefix ht) w]
  exact map_sent_build_reference c.inlineValues hp ht (by simpa using hne) _

/-- By its name, the statement is written with the casts of the table itself. -/
lemma build_byName {own : TableSchema} (hr : c.schema = some r) (hp : IsWord c.tablePrefix.toList)
    (ht : IsWord t.toList) (hown : r.getTable? "" (c.tablePrefix ++ t) = some own) (w : Setting) :
    c.builder.build (w.into (c.tablePrefix ++ t)) =
      (⟨c.dialect, none, c.inlineValues⟩ : Builder).build
        ((w.castBy (castIn own)).into (c.tablePrefix ++ t)) := by
  refine build_eq_of_found hr ?_ w
  rw [SchemaRegistry.tableSchema?_of_isWord (hp.append ht), SchemaRegistry.findTable?, hown]
  rfl

end

lemma map_sql_sent (c : Connection) (written : Outcome Built) :
    written.map (fun out => (c.sent out).sql) = (written.map c.sent).map Call.sql := by
  cases written <;> rfl

lemma map_sql_sent_eq_quoteSql (c : Connection) (written : Outcome Built) :
    written.map (fun out => (c.sent out).sql) = (written.map Built.sql).map c.quoteSql := by
  cases written <;> rfl

/-- What is sent alike binds alike. -/
lemma exists_of_map_sent_eq {written : Outcome Built} {out : Built}
    (h : (Except.ok out : Outcome Built).map c.sent = written.map c.sent) :
    ∃ out', written = .ok out' ∧ out.allParams = out'.allParams := by
  cases written with
  | error e => cases h
  | ok out' => exact ⟨out', rfl, congrArg Call.params (Except.ok.inj h)⟩

/-- A statement that names its table by a reference is sent as one that names it in full, with the
same text of placeholders. The values of the latter are cast to the types of the columns of the
table; those of the former are cast by a table whose name starts with a percent sign, if there is
one. The two bind the same exactly if these casts agree on the values that are set. -/
theorem build_reference_allParams_iff {r : SchemaRegistry} {table : TableSchema}
    (hr : c.schema = some r) (hp : IsWord c.tablePrefix.toList) (ht : IsWord t.toList)
    (hne : t ≠ "") (htable : r.getTable? "" (c.tablePrefix ++ t) = some table) (w : Setting) :
    let byReference := c.builder.build (w.into ("\x7b\x7b%" ++ t ++ "\x7d\x7d"))
    let byName := c.builder.build (w.into (c.tablePrefix ++ t))
    let uncast (w : Setting) :=
      (⟨c.dialect, none, c.inlineValues⟩ : Builder).build (w.into (c.tablePrefix ++ t))
    let casts := castIn (r.findTable? ("%" ++ t))
    byReference.map c.sent = (uncast (w.castBy casts)).map c.sent ∧
    byName = uncast (w.castBy (castIn table)) ∧
    (c.inlineValues = false →
      byReference.map (fun out => (c.sent out).sql) = byName.map (fun out => (c.sent out).sql) ∧
      ∀ out out', byReference = .ok out → byName = .ok out' →
        (out.allParams = out'.allParams ↔ ∀ column v, (column, .value v) ∈ w.columns →
          Binding.boundValue c.dialect (casts column v) =
            Binding.boundValue c.dialect (castIn table column v))) := by
  intro byReference byName uncast casts
  have hreference : byReference.map c.sent = (uncast (w.castBy casts)).map c.sent :=
    map_sent_build_byReference hr hp ht hne w
  have hname : byName = uncast (w.castBy (castIn table)) := build_byName hr hp ht htable w
  refine ⟨hreference, hname, fun hmode => ?_⟩
  have huncast (w : Setting) : uncast w =
      (⟨c.dialect, none, false⟩ : Builder).build (w.into (c.tablePrefix ++ t)) := by
    rw [← hmode]
  constructor
  · calc byReference.map (fun out => (c.sent out).sql)
        = (uncast (w.castBy casts)).map (fun out => (c.sent out).sql) := by
          rw [map_sql_sent, hreference, ← map_sql_sent]
      _ = (uncast (w.castBy (castIn table))).map (fun out => (c.sent out).sql) := by
          rw [map_sql_sent_eq_quoteSql, huncast, map_sql_build_castBy, ← huncast,
            ← map_sql_sent_eq_quoteSql]
      _ = byName.map (fun out => (c.sent out).sql) := by rw [hname]
  · intro out out' hout hout'
    rw [hout] at hreference
    obtain ⟨cast, hcast, hparams⟩ := exists_of_map_sent_eq hreference
    rw [huncast] at hcast
    rw [hname, huncast] at hout'
    rw [hparams]
    exact allParams_build_castBy_iff hcast hout'

/-- A table of which one integer column is known. -/
def userTable : TableSchema := (TableSchema.new "tbl_user" none).addColumn (.new "n" .integer "int")

/-- The text of a number is bound as it is for the reference, and as a number for the name. -/
theorem build_reference_allParams_iff_userTable :
    let c : Connection := ⟨.mysql, "tbl_", some ⟨[userTable]⟩, false⟩
    let w := Setting.update [("n", .value (.text "42"))]
      (some (.compare "id" .eq (.value (.int 1))))
    IsWord c.tablePrefix.toList ∧ IsWord "user".toList ∧
      SchemaRegistry.getTable? ⟨[userTable]⟩ "" (c.tablePrefix ++ "user") = some userTable ∧
      ∃ out out', c.builder.build (w.into "\x7b\x7b%user\x7d\x7d") = .ok out ∧
        c.builder.build (w.into "tbl_user") = .ok out' ∧
        c.sent out = ⟨.execute,
          "UPDATE \x60tbl_user\x60 SET \x60n\x60=:n1 WHERE \x60id\x60 = :id2",
          .ofList [(":n1", .text "42"), (":id2", .int 1)]⟩ ∧
        c.sent out' = ⟨.execute,
          "UPDATE \x60tbl_user\x60 SET \x60n\x60=:n1 WHERE \x60id\x60 = :id2",
          .ofList [(":n1", .int 42), (":id2", .int 1)]⟩ ∧
        out.allParams ≠ out'.allParams := by
  intro c w
  have hp : IsWord c.tablePrefix.toList := List.all_eq_true.mp (by decide)
  have ht : IsWord "user".toList := List.all_eq_true.mp (by decide)
  have htable : SchemaRegistry.getTable? ⟨[userTable]⟩ "" (c.tablePrefix ++ "user") =
      some userTable := by rfl
  obtain ⟨-, -, hbound⟩ := build_reference_allParams_iff (c := c) rfl hp ht (by decide) htable w
  have hreference : c.builder.build (w.into "\x7b\x7b%user\x7d\x7d") =
      .ok ⟨"UPDATE \x7b\x7b%user\x7d\x7d SET \x60n\x60=:n1 WHERE \x60id\x60 = :id2",
        some (.ofList [(":n1", .text "42"), (":id2", .int 1)])⟩ := by decide +kernel
  have hname : c.builder.build (w.into "tbl_user") =
      .ok ⟨"UPDATE \x60tbl_user\x60 SET \x60n\x60=:n1 WHERE \x60id\x60 = :id2",
        some (.ofList [(":n1", .int 42), (":id2", .int 1)])⟩ := by
    decide +kernel
  refine ⟨hp, ht, htable, _, _, hreference, hname, by decide +kernel, by decide +kernel, ?_⟩
  intro hsame
  have hmem : ("n", .value (.text "42")) ∈ w.columns := List.mem_cons_self
  have hcasts := ((hbound rfl).2 _ _ hreference hname).mp hsame "n" (.text "42") hmem
  revert hcasts
  decide +kernel

end Connection

end SqlCompose
