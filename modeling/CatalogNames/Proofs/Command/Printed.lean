import CatalogNames.Command.Basic
import CatalogNames.Proofs.Name.Record

/-! The program reads what it prints. The record of a name is printed with line ends and spaces between the
marks, which the strict reader passes over, and it has the catalog in a field of its own. So the name comes
back level by level, and its canonical text, which need not stand for it, is not read. -/

namespace CatalogNames.Command
open Name

theorem run_parse_eq_ok_iff (raw : Text) (preferView : Bool) (lines : List Text) :
    run (.parse raw preferView) = .ok lines ↔
      ∃ name, Name.parse raw (.ofBool preferView) = .ok name ∧ lines = [name.toJson.indented] := by
  simp only [run, bind_eq_ok_iff, mapError_eq_ok_iff, Except.ok.injEq, @eq_comm _ lines]

/-- A name is shown by its canonical text when its record is read, in whatever spaced layout. -/
theorem run_fromJson_write {name : Name} (formed : name.WellFormed) (layout : Json.Layout)
    (spaced : layout.Spaced) :
    run (.fromJson (layout.write 0 name.toJson)) = .ok [name.text] := by
  have read := Json.read_ofRecord layout spaced name.record name.ascending_record
  have same := (decode_eq_ok_iff name.toJson name).mp formed.decode_toJson
  rw [run, toJson, read]
  simp only [bind_eq_ok_iff, mapError_eq_ok_iff]
  exact ⟨name, same, rfl⟩

/-- What is printed for a text that stands for a name is its record as indented JSON, and for this the
canonical text of the same name is printed. -/
theorem run_fromJson_of_run_parse (raw : Text) (preferView : Bool) (lines : List Text)
    (ran : run (.parse raw preferView) = .ok lines) :
    ∃ name, Name.parse raw (.ofBool preferView) = .ok name ∧ lines = [name.toJson.indented] ∧
      run (.fromJson name.toJson.indented) = .ok [name.text] := by
  obtain ⟨name, read, rfl⟩ := (run_parse_eq_ok_iff raw preferView lines).mp ran
  have formed := (Composed.parse raw _ read).wellFormed
  exact ⟨name, read, rfl,
    run_fromJson_write formed Json.Layout.indented Json.Layout.spaced_indented⟩

/-- The canonical text of this name is itself refused. -/
theorem run_fromJson_of_run_parse_at_lone_view :
    let lone : Name := ⟨['c'], none, none, none, some "/\"v\"".toList⟩
    run (.parse "C////\"v\"".toList false) = .ok [lone.toJson.indented] ∧
      run (.fromJson lone.toJson.indented) = .ok ["c//\"v\"".toList] ∧
      Name.parse "c//\"v\"".toList .heuristic = .error (.orphan .database .table) :=
  have ran : run (.parse "C////\"v\"".toList false) =
    .ok [(Name.mk ['c'] none none none (some "/\"v\"".toList)).toJson.indented] := rfl
  have ⟨name, read, _, back⟩ := run_fromJson_of_run_parse "C////\"v\"".toList false _ ran
  have same : name = ⟨['c'], none, none, none, some "/\"v\"".toList⟩ := Except.ok.inj read.symm
  ⟨ran, by rw [same] at back; exact back, rfl⟩

end CatalogNames.Command
