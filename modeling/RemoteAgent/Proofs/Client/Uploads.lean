import RemoteAgent.Proofs.Client.Scenes

/-!
# What is uploaded is downloaded

With an agent that serves files, an upload on an open link leaves its data in the file, whatever the
file held before, and a download that follows delivers them (`upload_then_download`). Both hold in
whatever order things happen, and whatever the size of the pieces.
-/

namespace RemoteAgent.Scene

/-- After an upload the file holds the data, and a download that follows delivers them. -/
theorem upload_then_download {config : Config} {scene : Scene} (ready : scene.Ready config)
    (positive : 0 < config.chunkSize) {path : String} {data : Bytes}
    (short : data.length < 0x8000000000000000) (legible : Legible path scene.write)
    (limit afterwards : Option Duration) :
    scene.Performs (.upload path data) limit fun uploaded outcome =>
      outcome = .ok .done ∧ uploaded.files.contents? path = some data ∧
        (∀ other, other ≠ path →
          uploaded.files.contents? other = scene.files.contents? other) ∧
        uploaded.Performs (.download path .caller) afterwards fun downloaded delivered =>
          (∃ info, delivered = .ok (.file ⟨info, data⟩)) ∧ downloaded.files = uploaded.files := by
  obtain ⟨left, holds, others, uploads⟩ :=
    Transfer.converses_upload legible positive scene.files short
  refine (performs_of_converses ready uploads limit).imp ?_
  rintro uploaded outcome ⟨rfl, rfl, readyNext, sameWrite⟩
  refine ⟨rfl, holds, others, ?_⟩
  obtain ⟨info, downloads⟩ :=
    Transfer.converses_download (sameWrite ▸ legible) positive short holds
  refine (performs_of_converses readyNext downloads afterwards).imp ?_
  rintro downloaded delivered ⟨rfl, sameFiles, _, _⟩
  exact ⟨⟨info, rfl⟩, sameFiles⟩

/-- A client on an open link, and an agent that serves one file. -/
def sevenOctets : Scene where
  client := (Client.initial .loopback).run [.connect, .settle 1 .accepted, .resolve 1]
  generation := 1
  write := Inbound.encode
  files := [("a", [9, 9, 9, 9, 9, 9, 9])]

/-- Five octets take the place of seven, in pieces of four and one, and come back. -/
theorem upload_then_download_of_fewer :
    ∃ uploading, let uploaded := (sevenOctets.start (.upload "a" [1, 2, 3, 4, 5]) none).run uploading
      uploaded.files.contents? "a" = some [1, 2, 3, 4, 5] ∧
        ∃ downloading progress info,
          .finished uploaded.client.called progress (.ok (.file ⟨info, [1, 2, 3, 4, 5]⟩)) ∈
            ((uploaded.start (.download "a" .caller) none).run downloading).client.trace := by
  have rests : sevenOctets.client.Rests 1 := ⟨rfl, rfl, ⟨1, rfl⟩, rfl, fun _ => rfl⟩
  have ready : sevenOctets.Ready .loopback := ⟨Client.Reachable.initial.run _, rests, rfl⟩
  have short : ([1, 2, 3, 4, 5] : Bytes).length < 0x8000000000000000 := by decide
  have legible : Legible "a" sevenOctets.write := legible_encode (by decide)
  have uploads := upload_then_download ready (by decide) short legible none none
  obtain ⟨uploading, _, _, noneFails, uploaded⟩ := uploads.canEnd [] uploads.begins
  obtain ⟨_, holds, _, downloads⟩ := uploads.ends _ noneFails _ _ uploaded
  obtain ⟨downloading, progress, delivered, noneFailsToo, downloaded⟩ :=
    downloads.canEnd [] downloads.begins
  obtain ⟨⟨info, rfl⟩, _⟩ := downloads.ends _ noneFailsToo _ _ downloaded
  exact ⟨uploading, holds, downloading, progress, info, downloaded⟩

end RemoteAgent.Scene
