import Mathlib.Data.List.Nodup
import TemplateRegistry.Markup.Lookup
import TemplateRegistry.Proofs.NormalFields
import TemplateRegistry.Proofs.TextLines
/-!
# Values that were supplied, and defaults beside them

Declared defaults are put under the names that are no keys of the values.  A
placeholder looks for its name among the keys first, and only then for a path of
keys through nested maps.  So a default of a declared name with full stops comes
before a value that the caller supplied for that name in a nested map; every
other value that was supplied stands.

* `get?_applyDefaults` — the entries of the completed values;
* `lookup_eq_some_iff_of_absent` — the values that paths of keys lead to;
* `Hides` — a default that comes before such a value;
* `lookup_applyDefaults_eq_iff` — which of the supplied values stand;
* `lookup_applyDefaults_isSome_of_own` — a declared name that is a key or has a
  default always stands for a value.
-/

namespace TemplateRegistry

variable {params : List ParameterDef} {values : Parameters} {name : String}
  {v d : Value}

/-! ### The entries of the completed values -/

/-- The default declared for a name; of several the first counts. -/
def declaredDefault? (params : List ParameterDef) (name : String) :
    Option Value :=
  params.findSome? fun param =>
    if param.name = name then param.defaultValue else none

/-- An entry of the completed values is one that was supplied, or else the
default. -/
theorem get?_applyDefaults (params : List ParameterDef) (values : Parameters)
    (name : String) :
    (applyDefaults params values).get? name =
      (values.get? name).or (declaredDefault? params name) := by
  unfold applyDefaults
  induction params generalizing values with
  | nil => simp [declaredDefault?]
  | cons param rest ih =>
      rw [List.foldl_cons, ih]
      unfold declaredDefault?
      rw [List.findSome?_cons]
      cases hdefault : param.defaultValue with
      | none => simp
      | some value =>
          simp only [Table.get?_insertNew, Option.or_assoc]
          split <;> simp

/-- A value that was supplied under a name stays its entry. -/
theorem get?_applyDefaults_of_get? (h : values.get? name = some v) :
    (applyDefaults params values).get? name = some v := by
  rw [get?_applyDefaults, h, Option.some_or]

/-- A declaration with a default gives its name one, its own or that of a
declaration before it. -/
theorem declaredDefault?_isSome {param : ParameterDef} (hparam : param ∈ params)
    (hdefault : param.defaultValue.isSome) :
    (declaredDefault? params param.name).isSome := by
  rw [declaredDefault?, List.findSome?_isSome_iff]
  exact ⟨param, hparam, by rwa [if_pos rfl]⟩

/-- Where no two declarations have one name, the default of a name is that of
its declaration. -/
theorem declaredDefault?_eq_some_iff
    (hnames : (params.map ParameterDef.name).Nodup) :
    declaredDefault? params name = some d ↔
      ∃ param ∈ params, param.name = name ∧ param.defaultValue = some d := by
  have hsound : ∀ e, declaredDefault? params name = some e →
      ∃ param ∈ params, param.name = name ∧ param.defaultValue = some e := by
    intro e hfound
    obtain ⟨param, hparam, hdefault⟩ := List.exists_of_findSome?_eq_some hfound
    split at hdefault
    next hname => exact ⟨param, hparam, hname, hdefault⟩
    next => cases hdefault
  refine ⟨hsound d, ?_⟩
  rintro ⟨param, hparam, rfl, hdefault⟩
  obtain ⟨e, hfound⟩ := Option.isSome_iff_exists.mp
    (declaredDefault?_isSome hparam (hdefault ▸ rfl))
  obtain ⟨other, hother, hname, he⟩ := hsound e hfound
  obtain rfl : other = param :=
    List.inj_on_of_nodup_map hnames hother hparam hname
  rw [hfound, ← he, hdefault]

namespace Markup

/-! ### Names of keys and names of paths -/

/-- A name that is a key stands for the value under it. -/
theorem lookup_of_get? (h : values.get? name = some v) :
    lookup values name = some v := by
  rw [lookup, h]

/-- A name that is no key stands for a value just if its parts lead to one. -/
theorem lookup_eq_some_iff_of_absent (habsent : values.get? name = none) :
    lookup values name = some v ↔
      ∃ first key path root, nameParts name = first :: key :: path ∧
      values.get? first = some root ∧ root.follow? (key :: path) = some v := by
  rw [lookup, habsent]
  constructor
  · intro hpath
    match hparts : nameParts name with
    | first :: key :: path =>
        rw [hparts] at hpath
        obtain ⟨root, hroot, hfollow⟩ := Option.bind_eq_some_iff.mp hpath
        exact ⟨first, key, path, root, rfl, hroot, hfollow⟩
    | [_] | [] =>
        rw [hparts] at hpath
        cases hpath
  · rintro ⟨first, key, path, root, hparts, hroot, hfollow⟩
    rw [hparts]
    simp only [hroot, Option.bind_some, hfollow]

/-- A name of more than one part has a full stop. -/
theorem dot_mem_of_nameParts {first key : String} {path : List String}
    (h : nameParts name = first :: key :: path) : '.' ∈ name.toList := by
  by_contra hdot
  have hnone : ∀ c ∈ name.toList, (c == '.') = false := by
    intro c hc
    simpa using fun hdot' : c = '.' => hdot (hdot' ▸ hc)
  rw [nameParts, Text.splitWhen_eq_singleton hnone] at h
  simp at h

/-- A path that leads to a value does so in the completed values too, unless its
name has become a key. -/
theorem lookup_applyDefaults_of_path (habsent : values.get? name = none)
    (hdefault : declaredDefault? params name = none)
    (hv : lookup values name = some v) :
    lookup (applyDefaults params values) name = some v := by
  obtain ⟨first, key, path, root, hparts, hroot, hfollow⟩ :=
    (lookup_eq_some_iff_of_absent habsent).mp hv
  have hstill : (applyDefaults params values).get? name = none := by
    rw [get?_applyDefaults, habsent, hdefault, Option.none_or]
  exact (lookup_eq_some_iff_of_absent hstill).mpr
    ⟨first, key, path, root, hparts, get?_applyDefaults_of_get? hroot, hfollow⟩

/-! ### Values that stand -/

/-- A default is declared for a name that is no key of the values, and so is the
first thing found for it. -/
structure Hides (params : List ParameterDef) (values : Parameters)
    (name : String) (d : Value) : Prop where
  declared : ∃ param ∈ params, param.name = name ∧ param.defaultValue = some d
  absent : values.get? name = none

/-- A default that hides a value is what is looked up. -/
theorem Hides.lookup_eq (hnames : (params.map ParameterDef.name).Nodup)
    (h : Hides params values name d) :
    lookup (applyDefaults params values) name = some d := by
  apply lookup_of_get?
  rw [get?_applyDefaults, h.absent,
    (declaredDefault?_eq_some_iff hnames).mpr h.declared, Option.none_or]

/-- What a default hides was found by a path of keys. -/
theorem Hides.dot_mem (h : Hides params values name d)
    (hv : lookup values name = some v) :
    '.' ∈ name.toList := by
  obtain ⟨first, key, path, -, hparts, -⟩ :=
    (lookup_eq_some_iff_of_absent h.absent).mp hv
  exact dot_mem_of_nameParts hparts

/-- **Which supplied values stand.**  A name that stands for a value stands for
the same one beside the defaults, unless another one is a default that hides
it. -/
theorem lookup_applyDefaults_eq_iff
    (hnames : (params.map ParameterDef.name).Nodup)
    (hv : lookup values name = some v) :
    lookup (applyDefaults params values) name = some v ↔
      ∀ d, Hides params values name d → d = v := by
  constructor
  · intro hkept d hhides
    exact Option.some.inj ((hhides.lookup_eq hnames).symm.trans hkept)
  · intro hnone
    cases hkey : values.get? name with
    | some w =>
        have hsame : w = v :=
          Option.some.inj ((lookup_of_get? hkey).symm.trans hv)
        exact lookup_of_get? (get?_applyDefaults_of_get? (hsame ▸ hkey))
    | none =>
        cases hdefault : declaredDefault? params name with
        | none => exact lookup_applyDefaults_of_path hkey hdefault hv
        | some d =>
            have hhides : Hides params values name d :=
              ⟨(declaredDefault?_eq_some_iff hnames).mp hdefault, hkey⟩
            rw [← hnone d hhides]
            exact hhides.lookup_eq hnames

/-- A declared name that is a key of the values or has a default stands for a
value. -/
theorem lookup_applyDefaults_isSome_of_own {param : ParameterDef}
    (hparam : param ∈ params)
    (hown : param.defaultValue.isSome ∨ values.contains param.name) :
    (lookup (applyDefaults params values) param.name).isSome := by
  have hentry : ((applyDefaults params values).get? param.name).isSome := by
    rw [get?_applyDefaults, Option.isSome_or, Bool.or_eq_true]
    exact hown.symm.imp id (declaredDefault?_isSome hparam)
  obtain ⟨w, hw⟩ := Option.isSome_iff_exists.mp hentry
  rw [lookup_of_get? hw, Option.isSome_some]

end Markup

end TemplateRegistry
