import StylesheetAssets.Proofs.Rewrite.Passage

/-!
The files on the disk behind a pass that succeeds: those to whose places no copy was made are as
they were.
-/
namespace StylesheetAssets

open Stylesheet (Sheet)

theorem advances_rewriteSheet {config : Config} {sheet sheet' : Sheet} {stats : RewriteStats}
    {queue queue' : CopyQueue} {session session' : Session}
    (h : rewriteSheet config sheet queue session = (((sheet', .ok stats), queue'), session')) :
    Advances (queue, session) (queue', session') :=
  (passage_rewriteSheet h).advances

/-- A file that can be read in front of a pass that succeeds holds the same bytes behind it, unless
a copy was made to its place. -/
theorem readFile_survives {config : Config} {sheet sheet' : Sheet} {stats : RewriteStats}
    {queue queue' : CopyQueue} {session session' : Session}
    (h : rewriteSheet config sheet queue session = (((sheet', .ok stats), queue'), session'))
    {asset : Path} {bytes : ByteArray} (hread : session.disk.readFile asset = .ok bytes)
    (hspared : ∀ destination ∈ queue'.destinations,
      session.disk.placeOf destination ≠ session.disk.placeOf asset) :
    session'.disk.readFile asset = .ok bytes := by
  have hadvances := advances_rewriteSheet h
  obtain ⟨l, hresolve⟩ := Disk.readFile_eq_ok.1 hread
  have hplace : l = session.disk.placeOf asset := Disk.place_of_resolve hresolve
  have hfile := hadvances.kept (Disk.get?_of_resolve hresolve) fun p hp => by
    rw [hplace]
    exact hspared p hp
  exact Disk.readFile_later hadvances.directories hfile hadvances.workDir hresolve

def copyingImages : Config := { imagesOnly with limit := 0, cssOutput := some ⟨"/site"⟩ }

theorem readFile_survives_copyingImages :
    ∃ sheet' queue' session',
      rewriteSheet copyingImages importingSheet {}
          ⟨oneImage.put ["site", "z.png"] (.file ⟨#[2]⟩), #[]⟩ =
        (((sheet', .ok ⟨0, 3, 0⟩), queue'), session') ∧
      queue'.destinations = [⟨"/site/images/x.png"⟩, ⟨"/site/images/z.png"⟩] ∧
      session'.disk.readFile ⟨"/site/lib/x.png"⟩ = .ok ⟨#[1]⟩ := by
  have hstats : (rewriteSheet copyingImages importingSheet {}
      ⟨oneImage.put ["site", "z.png"] (.file ⟨#[2]⟩), #[]⟩).1.1.2 = .ok ⟨0, 3, 0⟩ := by
    decide +kernel
  have hdestinations : (rewriteSheet copyingImages importingSheet {}
      ⟨oneImage.put ["site", "z.png"] (.file ⟨#[2]⟩), #[]⟩).1.2.destinations =
        [⟨"/site/images/x.png"⟩, ⟨"/site/images/z.png"⟩] := by
    decide +kernel
  have hread : (oneImage.put ["site", "z.png"] (.file ⟨#[2]⟩)).readFile ⟨"/site/lib/x.png"⟩ =
      .ok ⟨#[1]⟩ := by
    decide +kernel
  have hspared : ∀ destination ∈ [⟨"/site/images/x.png"⟩, ⟨"/site/images/z.png"⟩],
      (oneImage.put ["site", "z.png"] (.file ⟨#[2]⟩)).placeOf destination ≠
        (oneImage.put ["site", "z.png"] (.file ⟨#[2]⟩)).placeOf ⟨"/site/lib/x.png"⟩ := by
    decide +kernel
  generalize hrun : rewriteSheet copyingImages importingSheet {}
      ⟨oneImage.put ["site", "z.png"] (.file ⟨#[2]⟩), #[]⟩ = r at hstats hdestinations
  obtain ⟨⟨⟨sheet', result⟩, queue'⟩, session'⟩ := r
  obtain rfl : result = .ok ⟨0, 3, 0⟩ := hstats
  exact ⟨sheet', queue', session', rfl, hdestinations,
    readFile_survives hrun hread (by rwa [hdestinations])⟩

end StylesheetAssets
