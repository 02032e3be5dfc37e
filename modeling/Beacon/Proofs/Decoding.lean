import Beacon.Body
import Beacon.Proofs.Json.Record

/-!
# What bodies are accepted

Both bodies are decoded exactly from the texts that are records of their fields: the values are
those that the text gives, and every other text is refused as a whole.
-/

namespace Beacon

/-- A reader accepts the records of some fields, each as what has the values that it gives, and
nothing else. -/
structure Accepts {α : Type} (fields : List String) (decode : Octets → Except Json.Fault α)
    (values : α → List String) : Prop where
  ok_iff : ∀ {body value}, decode body = .ok value ↔ Json.IsRecord fields body (values value)
  error_iff : ∀ {body}, (∃ fault, decode body = .error fault) ↔
    ∀ texts, ¬ Json.IsRecord fields body texts

/-- The values of a record are told by its fields, and tell them if there is one for each. -/
theorem Accepts.of_values {α : Type} {shape : Json.Shape} {values : α → List String}
    {ofValues : List String → α} (hvalues : ∀ value, ofValues (values value) = value)
    (hof : ∀ texts, texts.length = shape.fields.length → values (ofValues texts) = texts) :
    Accepts shape.fields (fun body => (shape.decode body).map ofValues) values where
  ok_iff := by
    intro body value
    rw [Json.map_eq_ok]
    constructor
    · rintro ⟨texts, hdecode, rfl⟩
      have hrecord := Json.Shape.decode_eq_ok_iff.mp hdecode
      rwa [hof texts hrecord.length_eq]
    · intro hrecord
      exact ⟨_, Json.Shape.decode_eq_ok_iff.mpr hrecord, hvalues value⟩
  error_iff := by
    intro body
    constructor
    · rintro ⟨fault, hfault⟩ texts hrecord
      rw [Json.Shape.decode_eq_ok_iff.mpr hrecord] at hfault
      cases hfault
    · intro hnone
      cases hdecode : shape.decode body with
      | error fault => exact ⟨fault, rfl⟩
      | ok texts => exact absurd (Json.Shape.decode_eq_ok_iff.mp hdecode) (hnone texts)

theorem Health.accepts :
    Accepts Health.shape.fields Health.decode Health.values :=
  .of_values (fun _ => rfl) fun texts hlength =>
    match texts, hlength with
    | [_, _], _ => rfl

theorem Info.accepts :
    Accepts Info.shape.fields Info.decode Info.values :=
  .of_values (fun _ => rfl) fun texts hlength =>
    match texts, hlength with
    | [_, _, _, _], _ => rfl

/-- A health body and an information body are accepted exactly if they are records of their
fields. -/
theorem bodies_accepted :
    Accepts ["status", "service"] Health.decode
        (fun health => [health.status, health.service]) ∧
      Accepts ["service", "language", "env", "version"] Info.decode
        (fun info => [info.service, info.language, info.environment, info.version]) :=
  ⟨Health.accepts, Info.accepts⟩

end Beacon
