import CredentialStore.FileStore.Document
import CredentialStore.Proofs.Url.Roots

/-!
# A server is recognised in every spelling

The kind of a server that is not recorded is recognised by the host alone (`from_url`). A written
form has the host of the server that it was written from, and so has the written form of each root
of the server. So neither the normal form of a URL nor a shorter path makes another product of a
server, and an entry without a recorded kind keeps its kind when its URL is brought into the normal
form.

Main statements: `ofUrl_of_read` (what is looked at is the host of the server) and `ofUrl_spelled`.
-/

namespace CredentialStore

namespace ServerType

variable {s : ServerUrl}

/-- A server is recognised by its host. -/
theorem ofUrl_of_read {raw : String} (h : ServerUrl.read raw = .ok s) :
    ofUrl raw = ofHost s.host.text := by
  obtain ⟨u, hread, hhost, -⟩ := ServerUrl.eq_of_read h
  rw [ofUrl, hread]
  dsimp only
  rw [hhost]
  rfl

theorem ofUrl_text (h : s.IsCanonical) : ofUrl s.text = ofHost s.host.text :=
  ofUrl_of_read (ServerUrl.read_text h)

theorem ofUrl_candidate (h : s.IsCanonical) {root : String} (hroot : root ∈ s.candidates) :
    ofUrl root = ofHost s.host.text := by
  obtain ⟨count, -, rfl⟩ := List.mem_map.1 hroot
  exact ofUrl_text (h.root count)

theorem ofUrl_normalize {raw normal : String} (h : ServerUrl.normalize raw = .ok normal) :
    ofUrl normal = ofUrl raw := by
  obtain ⟨s, hread, rfl, -⟩ := ServerUrl.possible_of_normalize h
  rw [ofUrl_text (ServerUrl.isCanonical_of_read hread), ofUrl_of_read hread]

/-- With its URL in the normal form, an entry stands for a server of the same kind. -/
theorem serverType_normalized (e : FileStore.Entry) (name : String) :
    (e.normalized.toCredential name).serverType = (e.toCredential name).serverType := by
  rw [FileStore.Entry.normalized]
  split
  · split
    · rename_i url hurl
      show e.serverType.getD (ofUrl url) = e.serverType.getD (ofUrl e.url)
      rw [ofUrl_normalize hurl]
    · rfl
  · rfl

/-- However the URL of a server is spelled, and however much of its path is left out, the server is
recognised by its host, and so as the same product. So it is before and after the URL of an entry
that records no kind is brought into the normal form. -/
theorem ofUrl_spelled {raw normal : String} (h : ServerUrl.normalize raw = .ok normal) :
    ∃ u host roots, Url.read raw = .ok u ∧ u.host = some host ∧ ServerUrl.possible raw = .ok roots ∧
      ofUrl raw = ofHost host.text ∧ ofUrl raw = ofUrl normal ∧
      (∀ root ∈ roots, ofUrl normal = ofUrl root) ∧
      ∀ (e : FileStore.Entry) (name : String), e.url = raw → e.serverType = none →
        (e.toCredential name).serverType = ofUrl raw ∧
          (e.normalized.toCredential name).serverType = ofUrl raw := by
  obtain ⟨s, hread, hnormal, hroots⟩ := ServerUrl.possible_of_normalize h
  have hs := ServerUrl.isCanonical_of_read hread
  obtain ⟨u, hu, hhost, -⟩ := ServerUrl.eq_of_read hread
  refine ⟨u, s.host, s.candidates, hu, hhost, hroots, ofUrl_of_read hread, (ofUrl_normalize h).symm,
    fun root hroot => ?_, fun e name hurl hnone => ?_⟩
  · rw [hnormal, ofUrl_text hs, ofUrl_candidate hs hroot]
  · have htype : (e.toCredential name).serverType = ofUrl raw := by
      show e.serverType.getD (ofUrl e.url) = ofUrl raw
      rw [hnone, hurl]
      rfl
    exact ⟨htype, (serverType_normalized e name).trans htype⟩

/-- A server of the hosted product behind user information, capital letters, a port and a path, each
of whose roots is recognised, and an entry for it. -/
theorem ofUrl_spelled_hosted :
    ServerUrl.normalize "HTTPS://me@Staging.CONNECT.posit.Cloud:443//a/" =
        .ok "https://staging.connect.posit.cloud/a" ∧
      ofUrl "HTTPS://me@Staging.CONNECT.posit.Cloud:443//a/" =
        ofUrl "https://staging.connect.posit.cloud/a" ∧
      ofUrl "https://staging.connect.posit.cloud/a" = .connectCloud ∧
      (FileStore.Entry.normalized
        { url := "HTTPS://me@Staging.CONNECT.posit.Cloud:443//a/", apiKey := "k" }
          |>.toCredential "work").serverType = .connectCloud := by
  have hnormal : ServerUrl.normalize "HTTPS://me@Staging.CONNECT.posit.Cloud:443//a/" =
      .ok "https://staging.connect.posit.cloud/a" := by decide +kernel
  obtain ⟨u, host, roots, -, -, -, -, hsame, -, hentries⟩ := ofUrl_spelled hnormal
  have hcloud : ofUrl "https://staging.connect.posit.cloud/a" = .connectCloud := by decide +kernel
  refine ⟨hnormal, hsame, hcloud, ?_⟩
  rw [(hentries _ "work" rfl rfl).2, hsame, hcloud]

end ServerType

end CredentialStore
