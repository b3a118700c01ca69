import PoliteCrawl.WorkItem.Owner

namespace PoliteCrawl.WorkItem

theorem hostText?_ne_none_of_check {item : WorkItem} {url : Url} (h : item.check = .ok url) :
    url.hostText? ≠ none := by
  unfold check at h
  split at h
  · cases h
  · split at h
    · cases h
    · split at h
      · cases h
      · rename_i hne
        cases h
        exact hne

theorem exists_target_of_issue?_eq_none {item : WorkItem} (h : item.issue? = none) :
    ∃ target host, item.url? = some target ∧ item.hostKey? = some host := by
  unfold issue? at h
  cases hcheck : item.check with
  | error issue => simp [hcheck] at h
  | ok url =>
    have hurl : item.url? = some url := by simp [url?, hcheck]
    obtain ⟨text, htext⟩ := Option.ne_none_iff_exists'.mp (hostText?_ne_none_of_check hcheck)
    have hhost : url.hostKey?.isSome := by simp [Url.hostKey?, htext]
    obtain ⟨host, hhost⟩ := Option.isSome_iff_exists.mp hhost
    exact ⟨url, host, hurl, by rw [hostKey?, hurl, Option.bind_some, hhost]⟩

/-- An item without an issue lacks neither an address nor a host. -/
theorem not_astray {item : WorkItem} (h : item.issue? = none) :
    ¬ (item.url? = none ∨ item.hostKey? = none) := by
  obtain ⟨target, host, htarget, hhost⟩ := exists_target_of_issue?_eq_none h
  simp [htarget, hhost]

theorem belongsTo_some {item : WorkItem} {host : String} (h : item.hostKey? = some host)
    (part : HashRange) : item.belongsTo (some part) = part.contains (.ofHost host) := by
  unfold belongsTo
  rw [h]

end PoliteCrawl.WorkItem
