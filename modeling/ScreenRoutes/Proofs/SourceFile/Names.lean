import ScreenRoutes.Proofs.Expansion.Traits
import ScreenRoutes.Proofs.SourceFile.QuotedText

/-!
# Names in a source file

A source file has names in its package line, its imports and its members, and each stands there in
some spelling (`SourceFile.spelledNames_fragments`). In the members a keyword always stands between
back-quotes. In the package line the parts of the package stand as they are, keywords among them, so
all names of a declaration are guarded exactly where no part of its package is a keyword
(`keywords_guarded_iff`). No import is made from the declaration: what it names is in the file's own
package.
-/

namespace ScreenRoutes

open Text

/-! ## Places -/

/-- A place for a name: the name, and how it is spelled there. -/
structure NamePlace where
  name : String
  spelled : String
  deriving DecidableEq, Repr

namespace NamePlace

def ofName (name : String) : NamePlace :=
  ⟨name, spellName name⟩

def bare (name : String) : NamePlace :=
  ⟨name, name⟩

/-- Whether the name stands between back-quotes if it is a keyword. -/
def Guarded (place : NamePlace) : Prop :=
  place.name ∈ hardKeywords → place.spelled = backquoted place.name

end NamePlace

def dottedNames (path : String) : List String :=
  (path.toList.splitOn '.').map String.ofList

/-- The places in a package line; without a package there is none. -/
def packagePlaces (package : String) : List NamePlace :=
  if package.isEmpty then [] else (dottedNames package).map .bare

def importPlaces (imports : List String) : List NamePlace :=
  imports.flatMap fun i => (dottedNames i).map .bare

def CallArgument.places : CallArgument → List NamePlace
  | .handle name => [.ofName name]
  | .extract .. => []

/-- The places in a registration: its own name and its parameters, and the screen's function with
the handles that it is called with. -/
def Registration.places (r : Registration) : List NamePlace :=
  .ofName r.name :: r.handles.map (fun p => .ofName p.name) ++
    .ofName r.screen.function :: r.screen.arguments.flatMap CallArgument.places

/-- The places in a piece of a route: a name that is interpolated without braces stands as it is. -/
def PathPiece.places : PathPiece → List NamePlace
  | .text _ => []
  | .value name _ nullable =>
    if nullable || needsBraces name then [.ofName name] else [.bare name]

/-- The places in a trigger: its own name, its parameters, and what its route interpolates. -/
def Trigger.places (t : Trigger) : List NamePlace :=
  .ofName t.name :: t.params.map (fun p => .ofName p.name) ++ t.path.flatMap PathPiece.places

namespace CodeUnit

def memberPlaces (u : CodeUnit) : List NamePlace :=
  u.registration.places ++ u.trigger.places ++ [.ofName u.constant.name]

/-- The names that the screen's function is imported by, if it is. -/
def screenImports (u : CodeUnit) : List String :=
  importsFor u.package [⟨u.registration.screen.package, u.registration.screen.function⟩]

/-- The places of all names that come from the declaration. -/
def declaredPlaces (u : CodeUnit) : List NamePlace :=
  packagePlaces u.package ++ importPlaces u.screenImports ++ u.memberPlaces

end CodeUnit

/-! ## Keywords -/

theorem spellName_of_mem {name : String} (h : name ∈ hardKeywords) :
    spellName name = backquoted name := by
  rw [spellName, if_neg]
  simp [h]

theorem NamePlace.guarded_ofName (name : String) : (NamePlace.ofName name).Guarded :=
  spellName_of_mem

theorem ne_backquoted (name : String) : name ≠ backquoted name := by
  intro h
  have hlength := congrArg String.length h
  rw [backquoted, String.length_append, String.length_append] at hlength
  have hquote : "\x60".length = 1 := by decide
  omega

/-- A keyword that stands as it is stands bare. -/
theorem NamePlace.guarded_bare_iff {name : String} :
    (NamePlace.bare name).Guarded ↔ name ∉ hardKeywords := by
  constructor
  · intro h hname
    exact ne_backquoted name (h hname)
  · intro h hname
    exact absurd hname h

theorem CallArgument.guarded_places {a : CallArgument} : ∀ place ∈ a.places, place.Guarded := by
  cases a with
  | handle name => exact List.forall_mem_singleton.2 (NamePlace.guarded_ofName name)
  | extract => exact List.forall_mem_nil _

/-- A keyword is interpolated between braces, and spelled like any other name there. -/
theorem PathPiece.guarded_places {piece : PathPiece} : ∀ place ∈ piece.places, place.Guarded := by
  cases piece with
  | text => exact List.forall_mem_nil _
  | value name type nullable =>
    rw [places]
    split
    · exact List.forall_mem_singleton.2 (NamePlace.guarded_ofName name)
    · next hbraces =>
      rw [List.forall_mem_singleton, NamePlace.guarded_bare_iff]
      intro hname
      refine hbraces ?_
      simp [needsBraces, hname]

/-- **Keywords stand between back-quotes in the members.** -/
theorem CodeUnit.guarded_memberPlaces (u : CodeUnit) :
    ∀ place ∈ u.memberPlaces, place.Guarded := by
  have hmap {α : Type} (f : α → String) (xs : List α) :
      ∀ place ∈ xs.map (fun x => NamePlace.ofName (f x)), place.Guarded := by
    intro place hplace
    obtain ⟨x, -, rfl⟩ := List.mem_map.1 hplace
    exact NamePlace.guarded_ofName _
  have hflatMap {α : Type} {f : α → List NamePlace} (h : ∀ x, ∀ place ∈ f x, place.Guarded)
      (xs : List α) : ∀ place ∈ xs.flatMap f, place.Guarded := by
    intro place hplace
    obtain ⟨x, -, hplace⟩ := List.mem_flatMap.1 hplace
    exact h x place hplace
  have hregistration : ∀ place ∈ u.registration.places, place.Guarded := by
    rw [Registration.places, List.cons_append, List.forall_mem_cons, List.forall_mem_append,
      List.forall_mem_cons]
    exact ⟨NamePlace.guarded_ofName _, hmap _ _, NamePlace.guarded_ofName _,
      hflatMap (fun _ => CallArgument.guarded_places) _⟩
  have htrigger : ∀ place ∈ u.trigger.places, place.Guarded := by
    rw [Trigger.places, List.cons_append, List.forall_mem_cons, List.forall_mem_append]
    exact ⟨NamePlace.guarded_ofName _, hmap _ _, hflatMap (fun _ => PathPiece.guarded_places) _⟩
  rw [memberPlaces, List.forall_mem_append, List.forall_mem_append, List.forall_mem_singleton]
  exact ⟨⟨hregistration, htrigger⟩, NamePlace.guarded_ofName _⟩

/-! ## Names in fragments -/

def Fragment.name? : Fragment → Option String
  | .code _ => none
  | .name s => some s

def spelledNames (fs : List Fragment) : List String :=
  fs.filterMap Fragment.name?

@[simp] theorem spelledNames_nil : spelledNames [] = [] :=
  rfl

@[simp] theorem spelledNames_code (s : String) (fs : List Fragment) :
    spelledNames (.code s :: fs) = spelledNames fs :=
  List.filterMap_cons_none rfl

@[simp] theorem spelledNames_name (s : String) (fs : List Fragment) :
    spelledNames (.name s :: fs) = s :: spelledNames fs :=
  List.filterMap_cons_some rfl

@[simp] theorem spelledNames_append (fs gs : List Fragment) :
    spelledNames (fs ++ gs) = spelledNames fs ++ spelledNames gs :=
  List.filterMap_append

theorem spelledNames_flatMap {α : Type} (f : α → List Fragment) (xs : List α) :
    spelledNames (xs.flatMap f) = xs.flatMap fun x => spelledNames (f x) :=
  List.filterMap_flatMap

/-- Code between stretches has no name in it. -/
theorem spelledNames_intercalate (s : String) (items : List (List Fragment)) :
    spelledNames ([Fragment.code s].intercalate items) = items.flatMap spelledNames := by
  induction items with
  | nil => rfl
  | cons item items ih =>
    cases items with
    | nil => simp
    | cons next items =>
      rw [List.intercalate_cons_cons, spelledNames_append, spelledNames_append, ih]
      simp

theorem spelledNames_dotted (path : String) : spelledNames (dotted path) = dottedNames path := by
  rw [dotted, dottedNames]
  generalize path.toList.splitOn '.' = parts
  induction parts with
  | nil => rfl
  | cons part parts ih =>
    cases parts with
    | nil => rfl
    | cons next parts =>
      simp only [List.map_cons, List.intersperse_cons_cons, spelledNames_name,
        spelledNames_code] at ih ⊢
      rw [ih]

theorem spelledNames_lines (indent : String) (lines : List SourceLine) :
    spelledNames (lines.flatMap (SourceFile.lineFragments indent)) =
      lines.flatMap fun l => spelledNames l.fragments := by
  rw [spelledNames_flatMap]
  simp [SourceFile.lineFragments]

/-- **The names in a file** are those of the package line, the imports and the members, in order. -/
theorem SourceFile.spelledNames_fragments (indent : String) (f : SourceFile) :
    spelledNames (f.fragments indent) =
      (packagePlaces f.package ++ importPlaces f.imports).map (·.spelled) ++
        f.members.flatMap fun m => m.flatMap fun l => spelledNames l.fragments := by
  have hbare (names : List String) : (names.map NamePlace.bare).map (·.spelled) = names := by
    rw [List.map_map]
    exact List.map_id _
  have hpackage : spelledNames (packageFragments f.package) =
      (packagePlaces f.package).map (·.spelled) := by
    rw [packageFragments, packagePlaces]
    split
    · rfl
    · simp [spelledNames_dotted, hbare]
  have himports : spelledNames (importFragments f.imports) =
      (importPlaces f.imports).map (·.spelled) := by
    rw [importFragments, importPlaces]
    split
    · next hempty =>
      rw [List.isEmpty_iff.1 hempty]
      rfl
    · simp [spelledNames_flatMap, spelledNames_dotted, List.map_flatMap, hbare]
  rw [fragments, spelledNames_append, spelledNames_append, hpackage, himports,
    spelledNames_intercalate, List.flatMap_map, List.map_append]
  simp only [spelledNames_lines]

/-! ## Names in members -/

/-- The names of formal parameters stand in front of whatever is said about each. -/
theorem spelledNames_formals {α : Type} (name behind : α → String) (xs : List α) :
    spelledNames (commaSeparated (xs.map fun x =>
      [.name (spellName (name x)), .code (behind x)])) =
      (xs.map fun x => NamePlace.ofName (name x)).map (·.spelled) := by
  rw [commaSeparated, spelledNames_intercalate, List.flatMap_map, List.map_map,
    List.map_eq_flatMap]
  rfl

theorem CallArgument.spelledNames_fragments (a : CallArgument) :
    spelledNames a.fragments = a.places.map (·.spelled) := by
  cases a with
  | handle name => rfl
  | extract name type nullable => cases type <;> cases nullable <;> rfl

theorem Registration.spelledNames_lines (r : Registration) :
    (r.lines.flatMap fun l => spelledNames l.fragments) = r.places.map (·.spelled) := by
  have harguments : (r.arguments.map argumentLine).flatMap (fun l => spelledNames l.fragments) =
      [] := by
    simp [List.flatMap_map, argumentLine]
  have hopen : (r.openLines.flatMap fun l => spelledNames l.fragments) = [] := by
    rw [openLines]
    split
    · simp
    · simp [harguments]
  have hcall : (r.callLines.flatMap fun l => spelledNames l.fragments) =
      spellName r.screen.function ::
        (r.screen.arguments.flatMap CallArgument.places).map (·.spelled) := by
    rw [callLines]
    split
    · next hempty =>
      rw [List.isEmpty_iff.1 hempty]
      rfl
    · simp [List.flatMap_map, CallArgument.spelledNames_fragments, List.map_flatMap]
  have hhandles := spelledNames_formals (·.name) (fun _ => ": NavController") r.handles
  simp only [lines, places, List.flatMap_append, List.flatMap_cons, List.flatMap_nil, hopen, hcall]
  simp [hhandles, NamePlace.ofName]

theorem PathPiece.spelledNames_fragments (piece : PathPiece) :
    spelledNames piece.fragments = piece.places.map (·.spelled) := by
  cases piece with
  | text => rfl
  | value name type nullable =>
    cases nullable with
    | true => rfl
    | false =>
      by_cases hbraces : needsBraces name
      · simp [fragments, places, hbraces, NamePlace.ofName]
      · simp [fragments, places, hbraces, NamePlace.bare]

theorem Screen.spelledNames_routeExpression (s : Screen) :
    spelledNames s.trigger.routeExpression =
      (s.trigger.path.flatMap PathPiece.places).map (·.spelled) := by
  by_cases hparams : s.trigger.params = []
  · rw [path_of_params_eq_nil hparams, Trigger.routeExpression, hparams]
    rfl
  · simp [Trigger.routeExpression, hparams, spelledNames_flatMap,
      PathPiece.spelledNames_fragments, List.map_flatMap]

theorem Screen.spelledNames_triggerLines (s : Screen) (o : SourceOptions) :
    ((s.trigger.lines o).flatMap fun l => spelledNames l.fragments) =
      s.trigger.places.map (·.spelled) := by
  have hparams : spelledNames (commaSeparated (s.trigger.params.map (·.fragments o))) =
      (s.trigger.params.map fun p => NamePlace.ofName p.name).map (·.spelled) :=
    spelledNames_formals _ _ _
  simp [Trigger.lines, Trigger.places, hparams, spelledNames_routeExpression, NamePlace.ofName]

/-- The names in the members stand in the members' places, in order. -/
theorem Screen.spelledNames_members (s : Screen) (lead : String) (o : SourceOptions) :
    (((s.unit lead).sourceFile o).members.flatMap fun m =>
      m.flatMap fun l => spelledNames l.fragments) =
      (s.unit lead).memberPlaces.map (·.spelled) := by
  simp only [CodeUnit.sourceFile, List.flatMap_cons, List.flatMap_nil, List.append_nil,
    CodeUnit.memberPlaces, List.map_append, Registration.spelledNames_lines]
  rw [List.append_assoc]
  congr 1
  rw [show (s.unit lead).trigger = s.trigger from rfl, spelledNames_triggerLines]
  rfl

/-! ## Imports -/

theorem mem_insertSorted {s t : String} {ts : List String} (h : s ∈ insertSorted t ts) :
    s = t ∨ s ∈ ts := by
  induction ts with
  | nil => exact .inl (List.mem_singleton.1 h)
  | cons u ts ih =>
    rw [insertSorted] at h
    split at h
    · exact List.mem_cons.1 h
    · split at h
      · exact .inr h
      · rcases List.mem_cons.1 h with rfl | h
        · exact .inr List.mem_cons_self
        · exact (ih h).imp_right (List.mem_cons_of_mem _)

/-- What is imported is a name in another package. -/
theorem exists_of_mem_importsFor {package i : String} {references : List Reference}
    (h : i ∈ importsFor package references) :
    ∃ r ∈ references, r.package ≠ package ∧ i = r.package ++ "." ++ r.name := by
  rw [importsFor] at h
  have hmem {texts : List String} (h : i ∈ texts.foldr insertSorted []) : i ∈ texts := by
    induction texts with
    | nil => exact h
    | cons text texts ih =>
      rcases mem_insertSorted h with rfl | h
      · exact List.mem_cons_self
      · exact List.mem_cons_of_mem _ (ih h)
  obtain ⟨r, hr, rfl⟩ := List.mem_map.1 (hmem h)
  obtain ⟨hr, hneeded⟩ := List.mem_filter.1 hr
  rw [Bool.and_eq_true, bne_iff_ne] at hneeded
  exact ⟨r, hr, hneeded.2, rfl⟩

/-- A screen's function needs no import: it is in the package of the file. -/
theorem Screen.screenImports_eq_nil (s : Screen) (lead : String) :
    (s.unit lead).screenImports = [] := by
  rw [List.eq_nil_iff_forall_not_mem]
  intro i hi
  obtain ⟨r, hr, hne, -⟩ := exists_of_mem_importsFor hi
  rw [List.mem_singleton.1 hr] at hne
  exact hne rfl

/-! ## The package line -/

theorem printedFragments_dotted (path : String) : printedFragments (dotted path) = path.toList := by
  have hparts (parts : List (List Char)) :
      printedFragments ((parts.map fun part => Fragment.name (String.ofList part)).intersperse
        (.code ".")) = ['.'].intercalate parts := by
    induction parts with
    | nil => rfl
    | cons part parts ih =>
      cases parts with
      | nil => simp [Fragment.text]
      | cons next parts =>
        simp only [List.map_cons, List.intersperse_cons_cons, printedFragments_cons,
          List.intercalate_cons_cons] at ih ⊢
        rw [ih]
        simp [Fragment.text]
  rw [dotted, hparts, List.intercalate_splitOn]

/-- A file with a package starts with the package as it is. -/
theorem CodeUnit.exists_sourceText_package {u : CodeUnit} (h : u.package ≠ "") (o : SourceOptions) :
    ∃ rest, (u.sourceText o).toList =
      "package ".toList ++ u.package.toList ++ "\n\n".toList ++ rest := by
  have hpackage : SourceFile.packageFragments u.package =
      .code "package " :: dotted u.package ++ [.code "\n\n"] :=
    if_neg (by simpa using h)
  refine ⟨printedFragments (SourceFile.importFragments (u.sourceFile o).imports) ++
    printedFragments ([Fragment.code "\n"].intercalate ((u.sourceFile o).members.map fun m =>
      m.flatMap (SourceFile.lineFragments o.indent))), ?_⟩
  rw [u.toList_sourceText, SourceFile.fragments, printedFragments_append, printedFragments_append,
    show (u.sourceFile o).package = u.package from rfl, hpackage]
  simp only [List.cons_append, printedFragments_cons, printedFragments_append,
    printedFragments_dotted, printedFragments_nil, Fragment.text, List.append_assoc,
    List.nil_append]

/-! ## Names of a declaration -/

theorem guarded_packagePlaces_iff {package : String} :
    (∀ place ∈ packagePlaces package, place.Guarded) ↔
      ∀ name ∈ dottedNames package, name ∉ hardKeywords := by
  rw [packagePlaces]
  split
  · next hempty =>
    have hpackage : package = "" := by simpa using hempty
    have hnames : ∀ name ∈ dottedNames "", name ∉ hardKeywords := by decide
    rw [hpackage]
    exact iff_of_true (List.forall_mem_nil _) hnames
  · rw [List.forall_mem_map]
    exact forall₂_congr fun name _ => NamePlace.guarded_bare_iff

/-- **A declaration's names are guarded in its file exactly where no part of its package is a
keyword.** The names of the file are those of the package line, the imports and the members. In the
members a keyword stands between back-quotes, whatever it names. The package line has the parts of
the package as they are, and every import names something of another package. -/
theorem keywords_guarded_iff {d : Declaration} {table : TypeTable} {s : Screen}
    (h : d.classify table = .ok s) (lead : String) (o : SourceOptions) :
    let u := s.unit lead
    let file := u.sourceFile o
    spelledNames (file.fragments o.indent) =
      (packagePlaces d.package ++ importPlaces file.imports ++ u.memberPlaces).map (·.spelled) ∧
    (∀ place ∈ u.memberPlaces, place.Guarded) ∧
    (∀ i ∈ file.imports, ∃ r ∈ u.references o,
      r.package ≠ d.package ∧ i = r.package ++ "." ++ r.name) ∧
    ((∀ place ∈ u.declaredPlaces, place.Guarded) ↔
      ∀ name ∈ dottedNames d.package, name ∉ hardKeywords) := by
  obtain ⟨-, params, -, hs⟩ := Declaration.exists_of_classify h
  have hpackage : d.package = (s.unit lead).package := by
    rw [hs]
    rfl
  intro u file
  have hmembers := u.guarded_memberPlaces
  refine ⟨?_, hmembers, ?_, ?_⟩
  · rw [SourceFile.spelledNames_fragments, s.spelledNames_members lead o, hpackage,
      ← List.map_append]
    rfl
  · intro i hi
    rw [hpackage]
    exact exists_of_mem_importsFor hi
  · have hscreen : importPlaces u.screenImports = [] := by
      rw [s.screenImports_eq_nil lead]
      rfl
    rw [CodeUnit.declaredPlaces, hscreen, List.append_nil, List.forall_mem_append, hpackage,
      guarded_packagePlaces_iff]
    exact and_iff_left hmembers

/-- The screen `fun fun(val: String, is: NavController)` of the route `when`. -/
def keywordDeclaration (package : String) : Declaration where
  package := package
  function := "fun"
  route := "when"
  file := none
  params := [⟨"val", .ofText "String", []⟩, ⟨"is", .ofText "NavController", []⟩]

/-- What `keywordDeclaration` is classified as. -/
def classifiedKeywords (package : String) : Screen where
  route := "when"
  function := "fun"
  package := package
  file := none
  params := [⟨"val", .string false none, "String"⟩, ⟨"is", .handle, "NavController"⟩]

theorem keywords_guarded_iff_when :
    (keywordDeclaration "co.app").classify .ofPackages = .ok (classifiedKeywords "co.app") ∧
      (∀ place ∈ ((classifiedKeywords "co.app").unit "NavGen").declaredPlaces, place.Guarded) ∧
      ((classifiedKeywords "co.app").unit "NavGen").declaredPlaces.map (·.spelled) =
        ["co", "app", "\x60when\x60", "\x60is\x60", "\x60fun\x60", "\x60is\x60", "\x60when\x60",
          "\x60val\x60", "\x60val\x60", "\x60when\x60"] := by
  have h : (keywordDeclaration "co.app").classify .ofPackages =
      .ok (classifiedKeywords "co.app") := by
    decide +kernel
  have hfree : ∀ name ∈ dottedNames "co.app", name ∉ hardKeywords := by decide +kernel
  obtain ⟨-, -, -, hguarded⟩ := keywords_guarded_iff h "NavGen" .standard
  refine ⟨h, hguarded.2 hfree, ?_⟩
  decide +kernel

/-- A keyword in the package of a screen stands bare in the first line of its file. -/
theorem keyword_bare_in_package :
    (keywordDeclaration "in.co.app").classify .ofPackages =
      .ok (classifiedKeywords "in.co.app") ∧
    "in" ∈ hardKeywords ∧
    (∃ rest, (((classifiedKeywords "in.co.app").unit "NavGen").sourceText .standard).toList =
      "package in.co.app\n\n".toList ++ rest) ∧
    ¬ ∀ place ∈ ((classifiedKeywords "in.co.app").unit "NavGen").declaredPlaces,
      place.Guarded := by
  have hkeyword : "in" ∈ hardKeywords := by decide +kernel
  refine ⟨by decide +kernel, hkeyword, ?_, fun hguarded => ?_⟩
  · exact CodeUnit.exists_sourceText_package (show "in.co.app" ≠ "" by decide) .standard
  · have hplace : NamePlace.bare "in" ∈
        ((classifiedKeywords "in.co.app").unit "NavGen").declaredPlaces := by
      decide +kernel
    exact NamePlace.guarded_bare_iff.1 (hguarded _ hplace) hkeyword

end ScreenRoutes
