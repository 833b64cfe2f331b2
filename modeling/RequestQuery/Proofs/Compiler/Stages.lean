import RequestQuery.Compiler
import RequestQuery.Proofs.Except
import RequestQuery.Proofs.Paging.Getters

/-!
# The stages of compiling

* `Compiler.compile_eq` — the stages in order: names, paging, conditions, joins. Each may fail, and the
  first failure is the answer.
* `Compiler.Compiled`, `Compiler.compile_ok` — a query stage by stage, each part from the stage that makes
  it.
* `Compiler.mem_whitelist` — the parameters that are filters.
-/

namespace RequestQuery.Compiler

open Paging

variable {ω ω' : Type}

@[simp] theorem options_withOperators (c : Compiler ω) (ops : OperatorSet ω') :
    (c.withOperators ops).options = c.options := rfl

@[simp] theorem operators_withOperators (c : Compiler ω) (ops : OperatorSet ω') :
    (c.withOperators ops).operators = ops := rfl

@[simp] theorem relations_withOperators (c : Compiler ω) (ops : OperatorSet ω') :
    (c.withOperators ops).relations = c.relations := rfl

variable [OperatorLike ω]

/-- **The stages of compiling**, without the pager that is handed from one to the next. -/
theorem compile_eq (c : Compiler ω) (params : Params) :
    c.compile params =
      c.validate >>= fun _ =>
      requestedOffset params c.options.paging >>= fun offset =>
      simpleTree c.operators (c.filters params) >>= fun filter =>
      c.joins (c.filters params) >>= fun joins =>
      .ok ⟨offset, limitOf (requestedPageSize params c.options.paging), c.order params, filter, joins⟩ := by
  rw [← Pager.offset_ofRequest, ← Pager.limit_offset_ofRequest]
  rfl

/-- A query in parts, each from the stage that makes it. -/
structure Compiled (c : Compiler ω) (params : Params) (d : Descriptor) : Prop where
  valid : c.validate = .ok ()
  offset : requestedOffset params c.options.paging = .ok d.offset
  limit : d.limit = limitOf (requestedPageSize params c.options.paging)
  order : d.order = c.order params
  filter : simpleTree c.operators (c.filters params) = .ok d.filter
  joins : c.joins (c.filters params) = .ok d.joins

/-- **Compiling succeeds just if every stage does.** -/
theorem compile_ok {c : Compiler ω} {params : Params} {d : Descriptor} :
    c.compile params = .ok d ↔ c.Compiled params d := by
  rw [compile_eq]
  constructor
  · intro h
    obtain ⟨⟨⟩, hvalid, h⟩ := bind_ok.1 h
    obtain ⟨offset, hoffset, h⟩ := bind_ok.1 h
    obtain ⟨filter, hfilter, h⟩ := bind_ok.1 h
    obtain ⟨joins, hjoins, h⟩ := bind_ok.1 h
    cases h
    exact ⟨hvalid, hoffset, rfl, rfl, hfilter, hjoins⟩
  · rintro ⟨hvalid, hoffset, hlimit, horder, hfilter, hjoins⟩
    rw [hvalid, hoffset, hfilter, hjoins, ← hlimit, ← horder]
    rfl

/-- The parameters that are filters: the allowed ones that are not reserved, and those that operators
bring along. -/
theorem mem_whitelist (c : Compiler ω) (name : String) :
    name ∈ c.whitelist ↔
      (name ∈ c.options.allowedFilters ∧ name ∉ c.options.reservedParams) ∨
        name ∈ c.operators.extraFields c.options.allowedFilters := by
  rw [whitelist, RequestQuery.whitelist, List.mem_eraseDups, List.mem_append, List.mem_filter]
  simp

end RequestQuery.Compiler
