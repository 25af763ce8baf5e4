import Mathlib.Data.List.Induction
import Mathlib.Data.List.Nodup
import ScreenRoutes.Classification

/-!
# What can be classified

Parameters are acceptable together where each has a name of its own and is supported, judged on its
own. A declaration whose route has a name is a screen exactly where its parameters are acceptable;
else the first parameter that is not, together with those before it, is blamed, and what follows it
is of no account (`classification_outcome`).
-/

namespace ScreenRoutes

/-! ## Single parameters -/

namespace DeclaredParam

/-- Whether a parameter is supported as one of the family: a number or a truth value is not
nullable, and the defaults of whatever a route carries have its type. -/
structure SupportedAs (table : TypeTable) (p : DeclaredParam) (cls : TypeClass) : Prop where
  resolve_eq : table.resolve? p.type.path = some cls
  not_nullable : cls = .int ∨ cls = .bool → p.type.nullable = false
  type_of_default : ∀ type, cls.argType? = some type → ∀ d ∈ p.defaults, d.type = type

/-- Whether a parameter is supported, judged on its own. -/
def Supported (table : TypeTable) (p : DeclaredParam) : Prop :=
  ∃ cls, p.SupportedAs table cls

/-- What a supported parameter becomes. It keeps its name and the text of its type; a handle's
nullability and defaults do not count, a string may be nullable, and the first default stands. -/
inductive Becomes (table : TypeTable) (p : DeclaredParam) : Parameter → Prop
  | handle : table.resolve? p.type.path = some .handle →
      Becomes table p ⟨p.name, .handle, p.type.source⟩
  | string {d : Option String} : table.resolve? p.type.path = some .string →
      p.defaults.head? = d.map .string →
      Becomes table p ⟨p.name, .string p.type.nullable d, p.type.source⟩
  | int {d : Option Int32} : table.resolve? p.type.path = some .int →
      p.defaults.head? = d.map .int →
      Becomes table p ⟨p.name, .int d, p.type.source⟩
  | bool {d : Option Bool} : table.resolve? p.type.path = some .bool →
      p.defaults.head? = d.map .bool →
      Becomes table p ⟨p.name, .bool d, p.type.source⟩

/-- What is wrong with a parameter, judged on its own. An unsupported type comes before nullability,
and that before the first default of another type. -/
inductive Faulty (function : String) (table : TypeTable) (p : DeclaredParam) :
    ClassificationError → Prop
  | unsupported : table.resolve? p.type.path = none →
      Faulty function table p (.unsupportedType function p.name p.type.source)
  | nullable {cls : TypeClass} {type : ArgType} : table.resolve? p.type.path = some cls →
      cls.argType? = some type → type ≠ .string → p.type.nullable = true →
      Faulty function table p (.nullableNotAllowed function p.name type)
  | mismatch {cls : TypeClass} {type : ArgType} {front rest : List Value} {d : Value} :
      table.resolve? p.type.path = some cls → cls.argType? = some type →
      (type = .string ∨ p.type.nullable = false) → p.defaults = front ++ d :: rest →
      (∀ x ∈ front, x.type = type) → d.type ≠ type →
      Faulty function table p (.defaultKindMismatch function p.name type d.type)

/-- What is wrong with a parameter behind those `before` it. A name that is there already comes
before anything else. -/
inductive Blamed (function : String) (table : TypeTable) (before : List DeclaredParam)
    (p : DeclaredParam) : ClassificationError → Prop
  | repeated : p.name ∈ before.map (·.name) →
      Blamed function table before p (.duplicateParameter function p.name)
  | faulty {e : ClassificationError} : p.name ∉ before.map (·.name) → p.Faulty function table e →
      Blamed function table before p e

section

variable {function : String} {table : TypeTable} {p : DeclaredParam}

/-- Defaults of one type have none that is of another. -/
theorem find?_defaults_eq_none {type : ArgType} (h : ∀ d ∈ p.defaults, d.type = type) :
    p.defaults.find? (·.type != type) = none := by
  rw [List.find?_eq_none]
  intro d hd
  simp [h d hd]

theorem classify_of_supportedAs {cls : TypeClass} (h : p.SupportedAs table cls) :
    p.classify function table =
      .ok ⟨p.name, cls.role p.type.nullable p.defaults.head?, p.type.source⟩ := by
  rw [classify, h.resolve_eq]
  cases htype : cls.argType? with
  | none =>
    cases cls with
    | handle => rfl
    | string | int | bool => cases htype
  | some type =>
    have hnullable : ¬ (type ≠ .string ∧ p.type.nullable) := by
      rintro ⟨hne, htrue⟩
      have hfalse : p.type.nullable = false := by
        refine h.not_nullable ?_
        cases cls with
        | handle => cases htype
        | string => exact absurd (Option.some.inj htype).symm hne
        | int => exact .inl rfl
        | bool => exact .inr rfl
      rw [hfalse] at htrue
      cases htrue
    simp only [htype, if_neg hnullable, find?_defaults_eq_none (h.type_of_default type htype)]

theorem Faulty.classify_eq {e : ClassificationError} (h : p.Faulty function table e) :
    p.classify function table = .error e := by
  cases h with
  | unsupported hresolve => rw [classify, hresolve]
  | nullable hresolve htype hne hnullable =>
    simp only [classify, hresolve, htype]
    exact if_pos ⟨hne, hnullable⟩
  | @mismatch cls type front rest d hresolve htype hnullable hdefaults hfront hd =>
    have hfind : p.defaults.find? (·.type != type) = some d := by
      rw [List.find?_eq_some_iff_append]
      refine ⟨by simpa using hd, front, rest, hdefaults, fun x hx => ?_⟩
      simp [hfront x hx]
    have hcond : ¬ (type ≠ .string ∧ p.type.nullable) := by
      rintro ⟨hne, htrue⟩
      rw [hnullable.resolve_left hne] at htrue
      cases htrue
    simp only [classify, hresolve, htype, if_neg hcond, hfind]

/-- A parameter is supported or there is something wrong with it. -/
theorem supported_or_faulty (function : String) (table : TypeTable) (p : DeclaredParam) :
    p.Supported table ∨ ∃ e, p.Faulty function table e := by
  cases hresolve : table.resolve? p.type.path with
  | none => exact .inr ⟨_, .unsupported hresolve⟩
  | some cls =>
    cases htype : cls.argType? with
    | none =>
      refine .inl ⟨cls, hresolve, ?_, by simp [htype]⟩
      rintro (rfl | rfl) <;> cases htype
    | some type =>
      by_cases hnullable : type ≠ .string ∧ p.type.nullable = true
      · exact .inr ⟨_, .nullable hresolve htype hnullable.1 hnullable.2⟩
      · cases hfind : p.defaults.find? (·.type != type) with
        | some d =>
          obtain ⟨hd, front, rest, hdefaults, hfront⟩ := List.find?_eq_some_iff_append.1 hfind
          refine .inr ⟨_, .mismatch hresolve htype ?_ hdefaults ?_ (by simpa using hd)⟩
          · rwa [not_and_or, ne_eq, not_not, Bool.not_eq_true] at hnullable
          · intro x hx
            simpa using hfront x hx
        | none =>
          refine .inl ⟨cls, hresolve, ?_, ?_⟩
          · rintro hcls
            have hne : type ≠ .string := by
              rcases hcls with rfl | rfl <;> cases htype <;> decide
            simpa [hne] using hnullable
          · intro type' htype' d hd
            obtain rfl := Option.some.inj (htype.symm.trans htype')
            simpa using List.find?_eq_none.1 hfind d hd

/-- What a supported parameter becomes is told by its family and its first default. -/
theorem SupportedAs.becomes_iff {cls : TypeClass} (h : p.SupportedAs table cls) {q : Parameter} :
    p.Becomes table q ↔
      q = ⟨p.name, cls.role p.type.nullable p.defaults.head?, p.type.source⟩ := by
  have hresolve := h.resolve_eq
  constructor
  · intro hq
    cases hq with
    | handle hcls =>
      obtain rfl := Option.some.inj (hresolve.symm.trans hcls)
      rfl
    | @string default hcls hdefault | @int default hcls hdefault | @bool default hcls hdefault =>
      obtain rfl := Option.some.inj (hresolve.symm.trans hcls)
      rw [hdefault]
      cases default <;> rfl
  · rintro rfl
    cases hhead : p.defaults.head? with
    | none =>
      cases cls with
      | handle => exact .handle hresolve
      | string => exact .string (d := none) hresolve hhead
      | int => exact .int (d := none) hresolve hhead
      | bool => exact .bool (d := none) hresolve hhead
    | some d =>
      have hd : ∀ type, cls.argType? = some type → d.type = type := fun type htype =>
        h.type_of_default type htype d (List.mem_of_mem_head? hhead)
      cases cls with
      | handle => exact .handle hresolve
      | string =>
        cases d with
        | string s => exact .string (d := some s) hresolve hhead
        | int | bool => cases hd _ rfl
      | int =>
        cases d with
        | int n => exact .int (d := some n) hresolve hhead
        | string | bool => cases hd _ rfl
      | bool =>
        cases d with
        | bool b => exact .bool (d := some b) hresolve hhead
        | string | int => cases hd _ rfl

theorem classify_eq_ok_iff {q : Parameter} :
    p.classify function table = .ok q ↔ p.Supported table ∧ p.Becomes table q := by
  constructor
  · intro h
    obtain ⟨cls, hcls⟩ | ⟨e, he⟩ := p.supported_or_faulty function table
    · rw [classify_of_supportedAs hcls] at h
      exact ⟨⟨cls, hcls⟩, hcls.becomes_iff.2 (Except.ok.inj h).symm⟩
    · rw [he.classify_eq] at h
      cases h
  · rintro ⟨⟨cls, hcls⟩, hq⟩
    rw [classify_of_supportedAs hcls, hcls.becomes_iff.1 hq]

theorem classify_eq_error_iff {e : ClassificationError} :
    p.classify function table = .error e ↔ p.Faulty function table e := by
  refine ⟨fun h => ?_, Faulty.classify_eq⟩
  obtain ⟨cls, hcls⟩ | ⟨e', he'⟩ := p.supported_or_faulty function table
  · rw [classify_of_supportedAs hcls] at h
    cases h
  · rwa [Except.error.inj (h.symm.trans he'.classify_eq)]

end

end DeclaredParam

/-! ## Parameters together -/

structure Acceptable (table : TypeTable) (ps : List DeclaredParam) : Prop where
  names_nodup : (ps.map (·.name)).Nodup
  supported : ∀ p ∈ ps, p.Supported table

/-- Whether `p`, at index `i`, is the first parameter that is not acceptable together with those
before it. -/
structure FirstOffender (table : TypeTable) (ps : List DeclaredParam) (i : Nat)
    (p : DeclaredParam) : Prop where
  getElem?_eq : ps[i]? = some p
  not_acceptable : ¬ Acceptable table (ps.take (i + 1))
  acceptable : ∀ j < i, Acceptable table (ps.take (j + 1))

section

variable {function : String} {table : TypeTable} {before ps : List DeclaredParam}
  {p : DeclaredParam} {e : ClassificationError}

theorem acceptable_nil (table : TypeTable) : Acceptable table [] :=
  ⟨List.nodup_nil, List.forall_mem_nil _⟩

theorem Acceptable.of_append (h : Acceptable table (before ++ ps)) : Acceptable table before := by
  obtain ⟨hnodup, hsupported⟩ := h
  rw [List.map_append] at hnodup
  exact ⟨hnodup.of_append_left, fun p hp => hsupported p (List.mem_append_left _ hp)⟩

theorem acceptable_append_singleton :
    Acceptable table (before ++ [p]) ↔
      Acceptable table before ∧ p.name ∉ before.map (·.name) ∧ p.Supported table := by
  constructor
  · intro h
    refine ⟨h.of_append, ?_, h.supported p (List.mem_append_right _ (List.mem_singleton_self p))⟩
    have hnodup := h.names_nodup
    rw [List.map_append, List.nodup_append] at hnodup
    exact fun hmem => hnodup.2.2 _ hmem _ (List.mem_singleton_self _) rfl
  · rintro ⟨⟨hnodup, hsupported⟩, hnew, hp⟩
    refine ⟨?_, List.forall_mem_append.2 ⟨hsupported, List.forall_mem_singleton.2 hp⟩⟩
    rw [List.map_append]
    exact hnodup.append (List.nodup_singleton _) (List.disjoint_singleton.2 hnew)

/-- A parameter that is not acceptable with those before it is blamed for something. -/
theorem exists_blamed (function : String) (hbefore : Acceptable table before)
    (h : ¬ Acceptable table (before ++ [p])) : ∃ e, p.Blamed function table before e := by
  by_cases hmem : p.name ∈ before.map (·.name)
  · exact ⟨_, .repeated hmem⟩
  · obtain hsupported | ⟨e, he⟩ := p.supported_or_faulty function table
    · exact absurd (acceptable_append_singleton.2 ⟨hbefore, hmem, hsupported⟩) h
    · exact ⟨e, .faulty hmem he⟩

/-- The error tells the function and the parameter. -/
theorem DeclaredParam.Blamed.tells (h : p.Blamed function table before e) :
    e.function = function ∧ e.param? = some p.name := by
  cases h with
  | repeated => exact ⟨rfl, rfl⟩
  | faulty _ hfaulty => cases hfaulty <;> exact ⟨rfl, rfl⟩

/-- Parameters that are not acceptable come apart at the first that is not. -/
theorem exists_split_of_not_acceptable (h : ¬ Acceptable table ps) :
    ∃ before p after, ps = before ++ p :: after ∧ Acceptable table before ∧
      ¬ Acceptable table (before ++ [p]) := by
  induction ps using List.reverseRecOn with
  | nil => exact absurd (acceptable_nil table) h
  | append_singleton ps p ih =>
    by_cases hps : Acceptable table ps
    · exact ⟨ps, p, [], rfl, hps, h⟩
    · obtain ⟨before, q, after, rfl, hbefore, hq⟩ := ih hps
      exact ⟨before, q, after ++ [p], by simp, hbefore, hq⟩

theorem FirstOffender.of_split {after : List DeclaredParam} (hbefore : Acceptable table before)
    (hp : ¬ Acceptable table (before ++ [p])) :
    FirstOffender table (before ++ p :: after) before.length p where
  getElem?_eq := by simp
  not_acceptable := by rwa [List.append_cons, List.take_left' (by simp)]
  acceptable := by
    intro j hj
    have hsplit : before = (before ++ p :: after).take (j + 1) ++ before.drop (j + 1) := by
      rw [List.take_append_of_le_length hj, List.take_append_drop]
    rw [hsplit] at hbefore
    exact hbefore.of_append

/-! ### Classifying them -/

/-- Acceptable parameters are classified one by one, and those behind them with their names in
mind. -/
theorem exists_classifyParams_append (function : String) (h : Acceptable table before) :
    ∃ qs seen, (∀ name, name ∈ seen ↔ name ∈ before.map (·.name)) ∧
      List.Forall₂ (DeclaredParam.Becomes table) before qs ∧
      ∀ rest, classifyParams function table [] (before ++ rest) =
        (qs ++ (classifyParams function table seen rest).1,
          (classifyParams function table seen rest).2) := by
  induction before using List.reverseRecOn with
  | nil => exact ⟨[], [], by simp, .nil, fun rest => rfl⟩
  | append_singleton before p ih =>
    obtain ⟨hbefore, hnew, hsupported⟩ := acceptable_append_singleton.1 h
    obtain ⟨qs, seen, hseen, hqs, hrest⟩ := ih hbefore
    obtain ⟨cls, hcls⟩ := hsupported
    obtain ⟨q, hq⟩ : ∃ q, p.Becomes table q := ⟨_, hcls.becomes_iff.2 rfl⟩
    have hp : p.classify function table = .ok q :=
      DeclaredParam.classify_eq_ok_iff.2 ⟨⟨cls, hcls⟩, hq⟩
    refine ⟨qs ++ [q], p.name :: seen, ?_, List.rel_append hqs (.cons hq .nil), ?_⟩
    · intro name
      rw [List.mem_cons, hseen, List.map_append, List.mem_append, or_comm]
      simp
    · intro rest
      have hfresh : p.name ∉ seen := fun hmem => hnew ((hseen _).1 hmem)
      rw [List.append_assoc, List.singleton_append, hrest, classifyParams, if_neg hfresh, hp]
      simp

theorem exists_classifyParams_of_acceptable (function : String) (h : Acceptable table ps) :
    ∃ qs, classifyParams function table [] ps = (qs, none) ∧
      List.Forall₂ (DeclaredParam.Becomes table) ps qs := by
  obtain ⟨qs, seen, -, hqs, hrest⟩ := exists_classifyParams_append function h
  refine ⟨qs, ?_, hqs⟩
  have hall := hrest []
  simpa [classifyParams] using hall

/-- A parameter that is blamed for something stops the classification, whatever follows it. -/
theorem classifyParams_of_blamed (hbefore : Acceptable table before)
    (hp : p.Blamed function table before e) (after : List DeclaredParam) :
    (classifyParams function table [] (before ++ p :: after)).2 = some e := by
  obtain ⟨qs, seen, hseen, -, hrest⟩ := exists_classifyParams_append function hbefore
  rw [hrest, classifyParams]
  cases hp with
  | repeated hmem => rw [if_pos ((hseen _).2 hmem)]
  | faulty hnew hfaulty =>
    rw [if_neg fun hmem => hnew ((hseen _).1 hmem), DeclaredParam.classify_eq_error_iff.2 hfaulty]

end

namespace Declaration

variable {d : Declaration} {table : TypeTable}

theorem classify_of_unnamed (h : d.route = "") (table : TypeTable) :
    d.classify table = .error (.emptyRouteName d.function) := by
  rw [classify, if_pos (by simpa using h)]

theorem exists_classify (hroute : d.route ≠ "") (h : Acceptable table d.params) :
    ∃ qs, d.classify table = .ok ⟨d.route, d.function, d.package, d.file, qs⟩ ∧
      List.Forall₂ (DeclaredParam.Becomes table) d.params qs := by
  obtain ⟨qs, hqs, hbecome⟩ := exists_classifyParams_of_acceptable d.function h
  refine ⟨qs, ?_, hbecome⟩
  rw [classify, if_neg (by simpa using hroute), hqs]

theorem classify_of_blamed (hroute : d.route ≠ "") {before after : List DeclaredParam}
    {p : DeclaredParam} {e : ClassificationError} (hbefore : Acceptable table before)
    (hp : p.Blamed d.function table before e) (hparams : d.params = before ++ p :: after) :
    d.classify table = .error e := by
  have hstop := classifyParams_of_blamed hbefore hp after
  rw [classify, if_neg (by simpa using hroute), hparams]
  split
  · next he =>
    rw [he] at hstop
    rw [Option.some.inj hstop]
  · next hnone =>
    rw [hnone] at hstop
    cases hstop

/-- The first offender is blamed by every declaration that has the same parameters up to it. -/
theorem exists_firstOffender (h : ¬ Acceptable table d.params) :
    ∃ i p e, FirstOffender table d.params i p ∧ p.Blamed d.function table (d.params.take i) e ∧
      ∀ d' : Declaration, d'.route ≠ "" → d'.function = d.function →
        d'.params.take (i + 1) = d.params.take (i + 1) → d'.classify table = .error e := by
  obtain ⟨before, p, after, hparams, hbefore, hp⟩ := exists_split_of_not_acceptable h
  obtain ⟨e, he⟩ := exists_blamed d.function hbefore hp
  rw [hparams]
  refine ⟨before.length, p, e, .of_split hbefore hp, by rwa [List.take_left], ?_⟩
  intro d' hroute hfunction htake
  rw [List.append_cons, List.take_left' (by simp)] at htake
  have hparams' : d'.params = before ++ p :: d'.params.drop (before.length + 1) := by
    rw [List.append_cons, ← htake, List.take_append_drop]
  exact classify_of_blamed hroute hbefore (hfunction ▸ he) hparams'

theorem exists_classify_iff :
    (∃ s, d.classify table = .ok s) ↔ d.route ≠ "" ∧ Acceptable table d.params := by
  constructor
  · rintro ⟨s, hs⟩
    by_cases hroute : d.route = ""
    · rw [classify_of_unnamed hroute] at hs
      cases hs
    · refine ⟨hroute, ?_⟩
      by_contra hall
      obtain ⟨i, p, e, -, -, hsame⟩ := exists_firstOffender hall
      rw [hsame d hroute rfl rfl] at hs
      cases hs
  · rintro ⟨hroute, hall⟩
    obtain ⟨qs, hqs, -⟩ := exists_classify hroute hall
    exact ⟨_, hqs⟩

end Declaration

/-- **What can be classified, and who is to blame otherwise.** A declaration is a screen exactly
where its route has a name and its parameters are acceptable; each parameter then becomes what its
family and its first default say, in order. Where only the parameters are at fault, the error names
the first that is not acceptable with those before it, and is the same for every declaration of the
function that has the same parameters up to there. -/
theorem classification_outcome (d : Declaration) (table : TypeTable) :
    ((∃ s, d.classify table = .ok s) ↔ d.route ≠ "" ∧ Acceptable table d.params) ∧
    (∀ s, d.classify table = .ok s →
      s.route = d.route ∧ s.function = d.function ∧ s.package = d.package ∧ s.file = d.file ∧
        List.Forall₂ (DeclaredParam.Becomes table) d.params s.params) ∧
    (d.route = "" → d.classify table = .error (.emptyRouteName d.function)) ∧
    (d.route ≠ "" → ¬ Acceptable table d.params →
      ∃ i p e, FirstOffender table d.params i p ∧
        p.Blamed d.function table (d.params.take i) e ∧
        e.function = d.function ∧ e.param? = some p.name ∧ d.classify table = .error e ∧
        ∀ d' : Declaration, d'.route ≠ "" → d'.function = d.function →
          d'.params.take (i + 1) = d.params.take (i + 1) → d'.classify table = .error e) := by
  refine ⟨Declaration.exists_classify_iff, fun s hs => ?_,
    fun hroute => Declaration.classify_of_unnamed hroute table, fun hroute hall => ?_⟩
  · obtain ⟨hroute, hall⟩ := Declaration.exists_classify_iff.1 ⟨s, hs⟩
    obtain ⟨qs, hqs, hbecome⟩ := Declaration.exists_classify hroute hall
    obtain rfl := Except.ok.inj (hqs.symm.trans hs)
    exact ⟨rfl, rfl, rfl, rfl, hbecome⟩
  · obtain ⟨i, p, e, hfirst, hp, hsame⟩ := Declaration.exists_firstOffender hall
    exact ⟨i, p, e, hfirst, hp, hp.tells.1, hp.tells.2, hsame d hroute rfl rfl, hsame⟩

end ScreenRoutes
