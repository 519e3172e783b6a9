import LapTelemetry.Datagram.Dispatcher
import LapTelemetry.Proofs.Outcome
import LapTelemetry.Proofs.Wire.LayoutTree

/-! # The routes of a dispatcher

A dispatcher is built from the part of the table that belongs to its format, entry by
entry, and keeps the keys. It therefore finds a route exactly for the keys of its
format that the table knows, and the route leads to the kind of the key and to that
kind's layout in the registry (`build_routes`). -/

namespace LapTelemetry.Datagram

open LapTelemetry.Spec LapTelemetry.Wire

set_option autoImplicit false

/-- A route to a kind, by the layout that the registry has for its body. A field with one record
per car is there, with records in it. -/
structure Route.LeadsTo (route : Route) (registry : Registry) (kind : Kind) : Prop where
  kind_eq : route.kind = kind
  layout : registry.get? kind.layoutName = some route.layout
  perCar : ∀ name, kind.perCarField? = some name →
    ∃ field nested, route.layout.field? name = some field ∧ field.element = .nested nested

theorem require_eq_ok_iff {registry : Registry} {name neededBy : String} {layout : Layout} :
    registry.require name neededBy = .ok layout ↔ registry.get? name = some layout := by
  unfold Registry.require
  cases registry.get? name <;> simp

theorem exists_field_of_nested? {layout : Layout} {name : String}
    (nested : ((layout.field? name).bind LayoutField.nested?).isSome) :
    ∃ field inner, layout.field? name = some field ∧ field.element = .nested inner := by
  obtain ⟨inner, found⟩ := Option.isSome_iff_exists.mp nested
  obtain ⟨field, declared, isNested⟩ := Option.bind_eq_some_iff.mp found
  exact ⟨field, inner, declared, LayoutField.element_of_nested? isNested⟩

namespace Dispatcher

variable {registry : Registry}

theorem route_leadsTo {key : Key} {kind : Kind} {routed : Key × Route}
    (built : route registry (key, kind) = .ok routed) :
    routed.1 = key ∧ routed.2.LeadsTo registry kind := by
  obtain ⟨layout, required, built⟩ := bind_eq_ok.mp built
  have found := require_eq_ok_iff.mp required
  cases perCar : kind.perCarField? with
  | none =>
    rw [perCar] at built
    cases built
    exact ⟨rfl, rfl, found, fun name cars => by cases perCar.symm.trans cars⟩
  | some field =>
    rw [perCar] at built
    by_cases missing : ((layout.field? field).bind LayoutField.nested?).isNone
    · simp only [if_pos missing] at built
      cases built
    · simp only [if_neg missing] at built
      cases built
      refine ⟨rfl, rfl, found, fun name cars => ?_⟩
      cases perCar.symm.trans cars
      exact exists_field_of_nested? (by simpa [Option.isSome_iff_ne_none] using missing)

/-- Routes are found under the keys that they were made for. -/
theorem lookup_of_mapM {entries : List (Key × Kind)} {routes : List (Key × Route)}
    (built : entries.mapM (route registry) = .ok routes) (key : Key) :
    (entries.lookup key = none → routes.lookup key = none) ∧
      ∀ kind, entries.lookup key = some kind →
        ∃ route, routes.lookup key = some route ∧ route.LeadsTo registry kind := by
  induction entries generalizing routes with
  | nil =>
    cases built
    exact ⟨fun _ => rfl, fun kind found => by cases found⟩
  | cons entry rest ih =>
    obtain ⟨own, kind⟩ := entry
    rw [List.mapM_cons] at built
    obtain ⟨routed, first, built⟩ := bind_eq_ok.mp built
    obtain ⟨others, later, done⟩ := bind_eq_ok.mp built
    cases done
    obtain ⟨unknown, known⟩ := ih later
    obtain ⟨sameKey, leads⟩ := route_leadsTo first
    obtain ⟨routedKey, route⟩ := routed
    cases sameKey
    by_cases here : key = routedKey
    · subst here
      rw [List.lookup_cons_self, List.lookup_cons_self]
      refine ⟨fun absent => (nomatch absent), fun other same => ?_⟩
      cases same
      exact ⟨route, rfl, leads⟩
    · rw [List.lookup_cons, List.lookup_cons, beq_eq_false_iff_ne.mpr here]
      exact ⟨unknown, known⟩

/-- In a part of the table that goes by the key, the keys of that part are found as before. -/
theorem lookup_filter_key (keep : Key → Bool) (table : List (Key × Kind)) (key : Key) :
    (table.filter fun (key, _) => keep key).lookup key =
      if keep key then table.lookup key else none := by
  induction table with
  | nil => simp
  | cons entry rest ih =>
    obtain ⟨own, kind⟩ := entry
    by_cases here : key = own
    · subst here
      cases kept : keep key with
      | true => simp [kept]
      | false => simp [kept, ih]
    · have other : (key == own) = false := beq_eq_false_iff_ne.mpr here
      cases kept : keep own with
      | true => simp [List.lookup_cons, kept, other, ih]
      | false => simp [List.lookup_cons, kept, other, ih]

/-- The header and the routes of a dispatcher are those of the registry and the table. -/
theorem build_routes {format : Nat} {dispatcher : Dispatcher}
    (built : build registry format = .ok dispatcher) :
    registry.get? Header.layoutName = some dispatcher.header ∧ ∀ key,
      (key.format ≠ format ∨ Kind.ofKey? key = none → dispatcher.routes.lookup key = none) ∧
      ∀ kind, key.format = format → Kind.ofKey? key = some kind →
        ∃ route, dispatcher.routes.lookup key = some route ∧ route.LeadsTo registry kind := by
  obtain ⟨header, required, built⟩ := bind_eq_ok.mp built
  obtain ⟨routes, made, built⟩ := bind_eq_ok.mp built
  obtain rfl : dispatcher = ⟨header, routes⟩ := by
    by_cases empty : routes.isEmpty
    · simp only [if_pos empty] at built
      cases built
    · simp only [if_neg empty] at built
      cases built
      rfl
  refine ⟨require_eq_ok_iff.mp required, fun key => ?_⟩
  obtain ⟨unknown, known⟩ := lookup_of_mapM made key
  rw [lookup_filter_key fun key => key.format == format] at unknown known
  refine ⟨fun foreign => unknown ?_, fun kind same found => known kind ?_⟩
  · rcases foreign with other | untold
    · exact if_neg (by simpa using other)
    · rw [show Kind.table.lookup key = none from untold, ite_self]
  · rw [if_pos (by simpa using same)]
    exact found

end Dispatcher

end LapTelemetry.Datagram
