/-! Texts put together with a separator. Where none of them holds the separator, they are the parts between its
occurrences. -/

namespace RuleTree

theorem splitOn_intercalate_toList {separator : Char} {texts : List String}
    (h : ∀ t ∈ texts, separator ∉ t.toList) (htexts : texts ≠ []) :
    (((String.singleton separator).intercalate texts).toList.splitOn separator).map String.ofList = texts := by
  have hlists : ∀ cs ∈ texts.map String.toList, separator ∉ cs := by
    intro cs hcs
    obtain ⟨t, ht, rfl⟩ := List.mem_map.1 hcs
    exact h t ht
  rw [String.toList_intercalate, String.toList_singleton,
    List.splitOn_intercalate separator hlists (by simpa using htexts)]
  simp [Function.comp_def]

end RuleTree
