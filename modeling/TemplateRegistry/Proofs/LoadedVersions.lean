import TemplateRegistry.Proofs.DeclaredRows
import TemplateRegistry.Proofs.MemoryConsistency
/-!
# Versions loaded together, and one by one

The versions of a name are listed with two statements: one for the versions, and
one for the rows of the declarations of all of them, which come in one list.  A
version by its id takes two statements of its own.  Whatever rows the database
has, and in whatever order they come, both ways give the same versions with the
same declarations, and report the same row if one has a type that is unknown.

* `Dialogue.resultWith` — the result of a dialogue, by the replies of a
  database;
* `ListsTogether`, `ServesAlone` — databases with some versions and some rows of
  declarations;
* `resultWith_getTemplate`, `listVersions_eq_mapM` — a version alone, and all
  together;
* `listVersions_eq_ok_iff`, `listVersions_eq_error_iff` — when all are loaded,
  and what is reported otherwise;
* `loaded_together_as_alone` — both are the same, and no row is lost or goes
  astray.
-/

namespace TemplateRegistry

/-- What a database replies to each request. -/
abbrev DatabaseReplies : Type := (call : DatabaseCall) → call.Result

namespace Dialogue

variable {α β : Type} {db : DatabaseReplies}

/-- The result of a dialogue with a database. -/
def resultWith (db : DatabaseReplies) (d : Dialogue α) : Except EngineError α :=
  (d.run.run (fun call (_ : Unit) => (db call, ())) ()).1

/-- The result of a dialogue is put together from those of its parts. -/
theorem resultWith_bind (d : Dialogue β) (f : β → Dialogue α) :
    (d >>= f).resultWith db = d.resultWith db >>= fun value =>
      (f value).resultWith db := by
  have hrun : (d >>= f).resultWith db =
      (Program.run (fun call (_ : Unit) => (db call, ()))
        (ExceptT.bindCont f (d.resultWith db)) ()).1 :=
    congrArg Prod.fst (Program.run_bind _ d.run (ExceptT.bindCont f) ())
  rw [hrun]
  cases d.resultWith db <;> rfl

/-- A statement results in what the database gives. -/
theorem resultWith_sendOr (meaning : DatabaseError → EngineError)
    (statement : Statement) :
    (sendOr meaning statement).resultWith db =
      (db (.send statement)).mapError meaning :=
  rfl

/-- A statement that succeeds. -/
theorem resultWith_send_bind {statement : Statement} {value : statement.Result}
    (h : db (.send statement) = .ok value) (f : statement.Result → Dialogue α) :
    (send statement >>= f).resultWith db = (f value).resultWith db := by
  rw [resultWith_bind, send, resultWith_sendOr, h]
  rfl

end Dialogue

namespace Database

open Dialogue

variable {db : DatabaseReplies} {name : String}
  {versions : List TemplateVersion} {rows : List ParameterRow}
  {t v : TemplateVersion}

/-! ### What the database has -/

/-- A database that lists some versions under a name, and replies with some rows
when it is asked for the declarations of all of them. -/
structure ListsTogether (db : DatabaseReplies) (name : String)
    (versions : List TemplateVersion) (rows : List ParameterRow) : Prop where
  family : db (.send (.templatesOfName name)) = .ok versions
  declarations :
    db (.send (.parametersOfAll (versions.map TemplateVersion.id))) = .ok rows

/-- A database that has each of some versions under its id, and replies with
just the rows of its own when it is asked for the declarations of one of
them. -/
structure ServesAlone (db : DatabaseReplies) (versions : List TemplateVersion)
    (rows : List ParameterRow) : Prop where
  version : ∀ t ∈ versions, db (.send (.templateById t.id)) = .ok (some t)
  declarations :
    ∀ t ∈ versions, db (.send (.parametersOf t.id)) = .ok (t.ownRows rows)

/-- A version with its declarations filled in: they are those of the rows of its
own, in the order of the rows. -/
structure LoadedFrom (rows : List ParameterRow) (t v : TemplateVersion) :
    Prop where
  same : v = { t with parameters := v.parameters }
  declared : List.Forall₂ ParameterRow.Declares (t.ownRows rows) v.parameters

/-- A version is loaded just as the rows say. -/
theorem loaded_eq_ok_iff : t.loaded rows = .ok v ↔ LoadedFrom rows t v := by
  rw [TemplateVersion.loaded]
  constructor
  · intro h
    cases hown : definitions (t.ownRows rows) with
    | error error =>
        rw [hown] at h
        cases h
    | ok params =>
        rw [hown] at h
        obtain rfl := Except.ok.inj h
        exact ⟨rfl, definitions_eq_ok_iff.mp hown⟩
  · intro h
    rw [definitions_eq_ok_iff.mpr h.declared]
    exact congrArg Except.ok h.same.symm

/-- The first of the rows whose type is unknown, version by version, is the one
reported. -/
theorem failureOf?_mapM_loaded (rows : List ParameterRow)
    (versions : List TemplateVersion) :
    failureOf? (versions.mapM (TemplateVersion.loaded rows)) =
      ((versions.flatMap (TemplateVersion.ownRows rows)).find?
          fun row => row.TypeUnknown).map
        fun row => ParameterType.unknown row.typeName := by
  rw [failureOf?_mapM, List.find?_flatMap, List.map_findSome?]
  congr 1
  funext t
  rw [TemplateVersion.loaded, failureOf?_map, failureOf?_definitions]
  rfl

/-! ### Alone and together -/

/-- A version that is asked for alone gets the declarations of its own rows. -/
theorem resultWith_getTemplate (h : ServesAlone db versions rows)
    (ht : t ∈ versions) :
    (getTemplate t.id).resultWith db = (t.loaded rows).mapError .registry := by
  have hfound :
      (getTemplate t.id).resultWith db = (withParameters t).resultWith db :=
    resultWith_send_bind (h.version t ht) _
  have hrows : (withParameters t).resultWith db =
      (ofExcept (definitions (t.ownRows rows)) >>= fun parameters =>
        pure { t with parameters }).resultWith db :=
    resultWith_send_bind (h.declarations t ht) _
  rw [hfound, hrows, TemplateVersion.loaded]
  cases definitions (t.ownRows rows) <;> rfl

/-- Versions that are listed get the declarations of the rows of all of them. -/
theorem resultWith_listVersions (h : ListsTogether db name versions rows) :
    (listVersions name).resultWith db =
      (attachParameters rows versions).mapError .registry := by
  have hfamily : (listVersions name).resultWith db =
      (if versions.isEmpty then pure [] else
        send (.parametersOfAll (versions.map TemplateVersion.id)) >>=
          fun rows => ofExcept (attachParameters rows versions)).resultWith db :=
    resultWith_send_bind h.family _
  rw [hfamily]
  cases versions with
  | nil => rfl
  | cons t rest => exact resultWith_send_bind h.declarations _

/-- The rows of all of them are dealt out to the versions, each of which gets
its own. -/
theorem listVersions_eq_mapM (hids : (versions.map TemplateVersion.id).Nodup)
    (h : ListsTogether db name versions rows) :
    (listVersions name).resultWith db =
      (versions.mapM (TemplateVersion.loaded rows)).mapError .registry := by
  rw [resultWith_listVersions h, attachParameters_eq_mapM hids]

/-- Versions are loaded if each of them is. -/
theorem listVersions_eq_ok_iff (hids : (versions.map TemplateVersion.id).Nodup)
    (h : ListsTogether db name versions rows) {loaded : List TemplateVersion} :
    (listVersions name).resultWith db = .ok loaded ↔
      List.Forall₂ (LoadedFrom rows) versions loaded := by
  rw [listVersions_eq_mapM hids h, mapError_eq_ok_iff, mapM_eq_ok_iff]
  simp only [loaded_eq_ok_iff]

/-- Versions are not loaded if one of their rows has an unknown type. -/
theorem listVersions_eq_error_iff
    (hids : (versions.map TemplateVersion.id).Nodup)
    (h : ListsTogether db name versions rows) {error : EngineError} :
    (listVersions name).resultWith db = .error error ↔ ∃ row,
      (versions.flatMap (TemplateVersion.ownRows rows)).find?
          (fun row => row.TypeUnknown) = some row ∧
        error = .registry (ParameterType.unknown row.typeName) := by
  rw [listVersions_eq_mapM hids h, mapError_eq_error_iff,
    failureOf?_mapM_loaded]
  simp only [Option.map_eq_some_iff]
  constructor
  · rintro ⟨_, ⟨row, hrow, rfl⟩, rfl⟩
    exact ⟨row, hrow, rfl⟩
  · rintro ⟨row, hrow, rfl⟩
    exact ⟨_, ⟨row, hrow, rfl⟩, rfl⟩

/-- One of these rows has an unknown type if and only if a row of a listed
version has. -/
theorem exists_find?_ownRows_iff
    (hids : (versions.map TemplateVersion.id).Nodup) :
    (∃ row, (versions.flatMap (TemplateVersion.ownRows rows)).find?
        (fun row => row.TypeUnknown) = some row) ↔
      ∃ row ∈ rows, row.templateId ∈ versions.map TemplateVersion.id ∧
        row.TypeUnknown := by
  rw [← Option.isSome_iff_exists, List.find?_isSome]
  simp only [(TemplateVersion.perm_ownRows hids rows).mem_iff, List.mem_filter,
    decide_eq_true_iff, and_assoc]

/-- The declarations of versions that were loaded are those of the rows of their
own. -/
theorem declared_flatMap {loaded : List TemplateVersion}
    (h : List.Forall₂ (LoadedFrom rows) versions loaded) :
    List.Forall₂ ParameterRow.Declares
      (versions.flatMap (TemplateVersion.ownRows rows))
      (loaded.flatMap TemplateVersion.parameters) :=
  List.rel_flatMap h fun _ _ hloaded => hloaded.declared

/-- **Loaded together as alone.**  Whatever versions with distinct ids a
database lists, and whatever rows of declarations it replies with, of versions
that are not listed too: the versions are those that each of them is alone, up
to the first that cannot be loaded.  They are loaded if and only if each has the
declarations of its own rows, in the order of the rows, and then every row of a
listed version is in one place, once.  They cannot be loaded if and only if such
a row has an unknown type, and the first one, version by version, is the one
reported. -/
theorem loaded_together_as_alone
    (hids : (versions.map TemplateVersion.id).Nodup)
    (h : ListsTogether db name versions rows) :
    (∀ single, ServesAlone single versions rows →
        (listVersions name).resultWith db =
        versions.mapM fun t => (getTemplate t.id).resultWith single) ∧
      (∀ loaded, (listVersions name).resultWith db = .ok loaded ↔
        List.Forall₂ (LoadedFrom rows) versions loaded) ∧
      (∀ loaded, (listVersions name).resultWith db = .ok loaded →
        ∃ used : List ParameterRow,
          used.Perm (rows.filter fun row =>
            row.templateId ∈ versions.map TemplateVersion.id) ∧
          List.Forall₂ ParameterRow.Declares used
            (loaded.flatMap TemplateVersion.parameters)) ∧
      (∀ error, (listVersions name).resultWith db = .error error ↔ ∃ row,
        (versions.flatMap (TemplateVersion.ownRows rows)).find?
            (fun row => row.TypeUnknown) = some row ∧
          error = .registry (ParameterType.unknown row.typeName)) ∧
      ((∃ error, (listVersions name).resultWith db = .error error) ↔
        ∃ row ∈ rows, row.templateId ∈ versions.map TemplateVersion.id ∧
          row.TypeUnknown) := by
  refine ⟨fun single hsingle => ?_, fun loaded => listVersions_eq_ok_iff hids h,
    fun loaded hloaded => ?_, fun error => listVersions_eq_error_iff hids h, ?_⟩
  · rw [listVersions_eq_mapM hids h, mapError_mapM]
    exact mapM_congr fun t ht => (resultWith_getTemplate hsingle ht).symm
  · exact ⟨_, TemplateVersion.perm_ownRows hids rows,
      declared_flatMap ((listVersions_eq_ok_iff hids h).mp hloaded)⟩
  · rw [← exists_find?_ownRows_iff hids]
    constructor
    · rintro ⟨error, hfails⟩
      obtain ⟨row, hfirst, -⟩ := (listVersions_eq_error_iff hids h).mp hfails
      exact ⟨row, hfirst⟩
    · rintro ⟨row, hfirst⟩
      exact ⟨_, (listVersions_eq_error_iff hids h).mpr ⟨row, hfirst, rfl⟩⟩

/-! ### Rows that come mixed up -/

/-- A database with some versions and some rows of declarations, and nothing
else. -/
def withRows (versions : List TemplateVersion) (rows : List ParameterRow) :
    DatabaseReplies
  | .send (.templatesOfName _) => .ok versions
  | .send (.templateById id) => .ok (versions.find? fun t => t.id = id)
  | .send (.parametersOfAll _) => .ok rows
  | .send (.parametersOf id) => .ok (rows.filter fun row => row.templateId = id)
  | .send _ => .error .poolTimedOut
  | .begin => .ok ()
  | .commit => .ok ()
  | .rollback => ()
  | .connect _ _ => .ok ()
  | .appliedMigrations => .ok []
  | .applyMigration _ => .ok ()

/-- The database of these rows lists the versions of the name together. -/
theorem listsTogether_withRows (name : String) (versions : List TemplateVersion)
    (rows : List ParameterRow) :
    ListsTogether (withRows versions rows) name versions rows :=
  ⟨rfl, rfl⟩

/-- It serves each of them alone as well. -/
theorem servesAlone_withRows (hids : (versions.map TemplateVersion.id).Nodup)
    (rows : List ParameterRow) :
    ServesAlone (withRows versions rows) versions rows := by
  refine ⟨fun t ht => ?_, fun t _ => rfl⟩
  have hfind : versions.find? (fun u => u.id = t.id) = some t := by
    cases hu : versions.find? fun u => u.id = t.id with
    | none => simpa using List.find?_eq_none.mp hu t ht
    | some u =>
        have hid : u.id = t.id := by simpa using List.find?_some hu
        rw [List.inj_on_of_nodup_map hids (List.mem_of_find?_eq_some hu) ht hid]
  exact congrArg Except.ok hfind

/-- Three versions of a greeting, not in the order of their ids. -/
def threeGreetings : List TemplateVersion :=
  [(Memory.greeting 1 true).withId 4 ⟨0, 0⟩,
    (Memory.greeting 2 false).withId 2 ⟨0, 0⟩,
    (Memory.greeting 3 false).withId 7 ⟨0, 0⟩]

/-- The row of a required parameter. -/
def requiredRow (id templateId position : Int) (name typeName : String) :
    ParameterRow :=
  ⟨id, templateId, position, name, "", true, typeName, none⟩

/-- Rows of the first two greetings in turns, and one of another template. -/
def mixedRows : List ParameterRow :=
  [requiredRow 1 2 0 "title" "string", requiredRow 2 9 0 "size" "length",
    requiredRow 3 4 0 "name" "string", requiredRow 4 2 1 "count" "number",
    requiredRow 5 4 1 "tone" "string"]

/-- The same, and a row with an unknown type of each of the two, that of the
second one before that of the first. -/
def spoiltRows : List ParameterRow :=
  mixedRows ++ [requiredRow 6 2 2 "ink" "colour",
    requiredRow 7 4 2 "page" "paper"]

/-- A required parameter. -/
def requiredParameter (name : String) (type : ParameterType) : ParameterDef :=
  ⟨name, "", true, type, none⟩

/-- The greetings with the declarations of the mixed rows. -/
def loadedGreetings : List TemplateVersion :=
  [{ (Memory.greeting 1 true).withId 4 ⟨0, 0⟩ with
      parameters :=
        [requiredParameter "name" .string, requiredParameter "tone" .string] },
    { (Memory.greeting 2 false).withId 2 ⟨0, 0⟩ with
      parameters :=
        [requiredParameter "title" .string,
          requiredParameter "count" .number] },
    (Memory.greeting 3 false).withId 7 ⟨0, 0⟩]

/-- Of the mixed rows each greeting gets its own; of the spoilt ones that of the
first greeting is reported. -/
theorem mixed_rows_loaded_as_alone :
    (threeGreetings.map TemplateVersion.id).Nodup ∧
    ListsTogether (withRows threeGreetings mixedRows) "greeting" threeGreetings
      mixedRows ∧
    ServesAlone (withRows threeGreetings mixedRows) threeGreetings mixedRows ∧
    (listVersions "greeting").resultWith (withRows threeGreetings mixedRows) =
      .ok loadedGreetings ∧
    (listVersions "greeting").resultWith (withRows threeGreetings mixedRows) =
      threeGreetings.mapM (fun t =>
        (getTemplate t.id).resultWith (withRows threeGreetings mixedRows)) ∧
    ListsTogether (withRows threeGreetings spoiltRows) "greeting" threeGreetings
      spoiltRows ∧
    (listVersions "greeting").resultWith (withRows threeGreetings spoiltRows) =
      .error (.registry (ParameterType.unknown "paper")) := by
  have hids : (threeGreetings.map TemplateVersion.id).Nodup := by decide
  have hmixed := listsTogether_withRows "greeting" threeGreetings mixedRows
  have halone := servesAlone_withRows hids mixedRows
  have hspoilt := listsTogether_withRows "greeting" threeGreetings spoiltRows
  obtain ⟨hsingle, hok, -⟩ := loaded_together_as_alone hids hmixed
  obtain ⟨-, -, -, herror, -⟩ := loaded_together_as_alone hids hspoilt
  have hloaded :
      List.Forall₂ (LoadedFrom mixedRows) threeGreetings loadedGreetings :=
    .cons ⟨rfl, .cons rfl (.cons rfl .nil)⟩
      (.cons ⟨rfl, .cons rfl (.cons rfl .nil)⟩ (.cons ⟨rfl, .nil⟩ .nil))
  exact ⟨hids, hmixed, halone, (hok _).mpr hloaded, hsingle _ halone, hspoilt,
    (herror _).mpr ⟨requiredRow 7 4 2 "page" "paper", rfl, rfl⟩⟩

end Database

end TemplateRegistry
