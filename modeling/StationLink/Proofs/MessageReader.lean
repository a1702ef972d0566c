import StationLink.Message.Reader

namespace StationLink.Message.Reader

/-!
# Readers step by step

A reader made of two readers succeeds exactly if both succeed one after the
other. So what is read can be followed byte by byte, in either direction.
-/

variable {α β : Type}

/-- The second reader goes on where the first one stopped. -/
theorem bind_of_ok
    {first : Reader α}
    {second : α → Reader β}
    {input rest : List UInt8}
    {value : α}
    (found : first input = .ok (value, rest)) :
    (first >>= second) input = second value rest := by
  change (first input).bind _ = _
  rw [found]
  rfl

/-- If two readers succeed one after the other, the first one does. -/
theorem exists_of_bind
    {first : Reader α}
    {second : α → Reader β}
    {input : List UInt8}
    {result : β × List UInt8}
    (found : (first >>= second) input = .ok result) :
    ∃ value rest,
      first input = .ok (value, rest) ∧ second value rest = .ok result := by
  cases outcome : first input with
  | error error =>
      change (first input).bind _ = _ at found
      rw [outcome] at found
      cases found
  | ok read =>
      obtain ⟨value, rest⟩ := read
      rw [bind_of_ok outcome] at found
      exact ⟨value, rest, rfl, found⟩

theorem bind_eq_ok_iff
    {first : Reader α}
    {second : α → Reader β}
    {input : List UInt8}
    {result : β × List UInt8} :
    (first >>= second) input = .ok result ↔
      ∃ value rest,
        first input = .ok (value, rest) ∧ second value rest = .ok result := by
  constructor
  · exact exists_of_bind
  · rintro ⟨value, rest, found, later⟩
    exact (bind_of_ok found).trans later

theorem pure_eq_ok_iff
    {value found : α}
    {input rest : List UInt8} :
    (pure value : Reader α) input = .ok (found, rest) ↔ value = found ∧ input = rest := by
  constructor
  · intro read
    cases read
    exact ⟨rfl, rfl⟩
  · rintro ⟨rfl, rfl⟩
    rfl

/-- What a reader leaves over is dropped in the end. -/
theorem run'_eq_ok_iff
    {reader : Reader α}
    {input : List UInt8}
    {value : α} :
    reader.run' input = .ok value ↔ ∃ rest, reader input = .ok (value, rest) := by
  change (reader input).map Prod.fst = .ok value ↔ _
  cases reader input with
  | error error =>
      exact ⟨nofun, nofun⟩
  | ok read =>
      obtain ⟨found, rest⟩ := read
      constructor
      · intro same
        cases same
        exact ⟨rest, rfl⟩
      · rintro ⟨_, same⟩
        cases same
        rfl

end StationLink.Message.Reader
