import EvpnForOvn.Import.TwoObservations

/-!
# Generations name contents

Whoever applies the snapshots of an importer compares generations only.  Over
a whole history the generations of the published snapshots never fall, and one
generation stands for one content, also across replaced sources and failed
polls, until the counter could wrap around.
-/

namespace EvpnForOvn.Evpn

namespace ReadOnlyType2Importer

/-- A later snapshot is not of an older generation, and has the content of its
generation. -/
def Supersedes (later earlier : RemoteImportSnapshot) : Prop :=
  earlier.generation ≤ later.generation ∧
    (earlier.generation = later.generation → earlier.SameContent later)

theorem Supersedes.trans {first second third : RemoteImportSnapshot}
    (newer : Supersedes third second) (older : Supersedes second first) :
    Supersedes third first := by
  refine ⟨UInt64.le_trans older.1 newer.1, fun same => ?_⟩
  have middle : first.generation = second.generation :=
    UInt64.le_antisymm older.1 (same ▸ newer.1)
  exact (older.2 middle).trans (newer.2 (middle.symm.trans same))

variable {digest : RemoteHash} {package : RoutePackage}
  {importer : ReadOnlyType2Importer} {call : ImporterCall}

theorem Supersedes.refl (snapshot : RemoteImportSnapshot) :
    Supersedes snapshot snapshot :=
  ⟨UInt64.le_refl _, fun _ => ⟨rfl, rfl⟩⟩

/-- What one call publishes is confirmed, and what is confirmed supersedes
what was confirmed before. -/
theorem supersedes_serve (importer : ReadOnlyType2Importer)
    (call : ImporterCall)
    (room : importer.confirmed.generation.toNat + 1 < UInt64.size) :
    Supersedes (importer.serve digest package call).2.confirmed
        importer.confirmed ∧
      ∀ snapshot ∈ publication (importer.serve digest package call).1,
        snapshot = (importer.serve digest package call).2.confirmed := by
  cases call with
  | rebindSource present =>
      cases present with
      | true => exact ⟨⟨UInt64.le_refl _, fun _ => ⟨rfl, rfl⟩⟩, nofun⟩
      | false => exact ⟨.refl _, nofun⟩
  | poll read =>
      have polled := poll_polled digest package importer read
      dsimp only [serve]
      generalize importer.poll digest package read = out at polled
      cases polled with
      | uncertain _ => exact ⟨.refl _, nofun⟩
      | first _ _ => exact ⟨.refl _, nofun⟩
      | @second next confirmed _ _ spoken _ equal differs =>
          refine ⟨?_, fun snapshot listed => ?_⟩
          · by_cases same : importer.confirmed.SameContent confirmed
            · exact ⟨equal same ▸ UInt64.le_refl _, fun _ => same⟩
            · have grown := differs same
              refine ⟨grown ▸ generation_le_add_one room,
                fun unchanged => ?_⟩
              exact absurd (unchanged.trans grown).symm
                (generation_add_one_ne _)
          · simpa [publication, spoken] using listed

/-- The snapshots published so far are superseded by each other in order, and
by the confirmed one. -/
theorem published_ordered (calls : List ImporterCall)
    (room : importer.confirmed.generation.toNat + calls.length <
      UInt64.size) :
    (importer.published digest package calls).Pairwise
        (fun earlier later => Supersedes later earlier) ∧
      ∀ snapshot ∈ importer.published digest package calls,
        Supersedes (importer.after digest package calls).confirmed
          snapshot := by
  induction calls using List.reverseRecOn with
  | nil => exact ⟨.nil, nofun⟩
  | append_singleton calls call induction =>
      rw [List.length_append, List.length_singleton] at room
      have counted := @generation_after_le digest package importer calls
      obtain ⟨ordered, bounded⟩ := induction (by omega)
      obtain ⟨newer, confirmed⟩ := @supersedes_serve digest package
        (importer.after digest package calls) call (by omega)
      have later : ∀ snapshot ∈ importer.published digest package calls,
          Supersedes ((importer.after digest package calls).serve digest
            package call).2.confirmed snapshot :=
        fun snapshot listed => newer.trans (bounded snapshot listed)
      rw [published_concat, after_concat]
      refine ⟨List.pairwise_append.mpr ⟨ordered, ?_, ?_⟩, ?_⟩
      · unfold publication
        split
        · split
          · exact List.pairwise_singleton _ _
          · exact .nil
        · exact .nil
      · intro earlier listed snapshot spoken
        rw [confirmed snapshot spoken]
        exact later earlier listed
      · intro snapshot listed
        rcases List.mem_append.mp listed with older | spoken
        · exact later snapshot older
        · rw [confirmed snapshot spoken]
          exact .refl _

/-- Of two snapshots that an importer has published, the later one does not
have a smaller generation, and the same generation means the same endpoints
and issues, while the calls cannot have used up the generations. -/
theorem published_generations_name_contents (calls : List ImporterCall)
    (room : importer.confirmed.generation.toNat + calls.length <
      UInt64.size) :
    (importer.published digest package calls).Pairwise
      fun earlier later => earlier.generation ≤ later.generation ∧
        (earlier.generation = later.generation →
          earlier.SameContent later) :=
  published_ordered calls room |>.1

/-- Three polls of one table publish it twice, in one generation. -/
theorem published_generations_name_contents_sample :
    ∃ earlier later : RemoteImportSnapshot,
      sampleImporter.published sampleHash samplePackage
          (List.replicate 3 (.poll sampleRead)) = [earlier, later] ∧
        earlier.generation ≤ later.generation ∧
        (earlier.generation = later.generation →
          earlier.SameContent later) := by
  obtain ⟨earlier, second, spoken, _⟩ := sampleImporter_second
  obtain ⟨later, third, spokenToo, _⟩ := poll_second
    (sampleRead_observed rfl : ({ sampleImporter with
      pending := sampleHash (.snapshot sampleNext)
      confirmed := earlier } : ReadOnlyType2Importer).observe _ _ _ = _) rfl
  have state : sampleImporter.after sampleHash samplePackage
      ([.poll sampleRead] ++ [.poll sampleRead]) = { sampleImporter with
        pending := sampleHash (.snapshot sampleNext)
        confirmed := earlier } := by
    rw [after_concat]
    exact congrArg Prod.snd second
  have silent : sampleImporter.published sampleHash samplePackage
      [.poll sampleRead] = [] := sampleImporter_polled.1
  have listed : sampleImporter.published sampleHash samplePackage
      ([.poll sampleRead] ++ [.poll sampleRead] ++ [.poll sampleRead]) =
        [earlier, later] := by
    rw [published_concat, published_concat, silent, state]
    dsimp only [serve]
    rw [second, third]
    simp [publication, spoken, spokenToo]
  have ordered := @published_generations_name_contents sampleHash
    samplePackage sampleImporter (List.replicate 3 (.poll sampleRead))
    (by decide)
  have both : sampleImporter.published sampleHash samplePackage
      (List.replicate 3 (.poll sampleRead)) = [earlier, later] := listed
  rw [both] at ordered
  exact ⟨earlier, later, both, by simpa using ordered⟩

end ReadOnlyType2Importer

end EvpnForOvn.Evpn
