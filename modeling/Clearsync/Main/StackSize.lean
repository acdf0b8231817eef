namespace clearsync.main

/-- The `stack-size` branch of `csMainXmlParser::ParseElementOpen` for a `plugin` tag, on
    `stack_size = (size_t)atol(...)`. The page size `::csGetPageSize()` and
    `PTHREAD_STACK_MIN` are the platform's, and `size_t` arithmetic wraps. -/
def plugin_stack_size (page stack_min stack_size : BitVec 64) : BitVec 64 :=
  if stack_size < stack_min then stack_min
  else if stack_size % page ≠ 0 then stack_size + stack_size % page
  else stack_size

/-- The code's round-up on a 4096-byte page with `PTHREAD_STACK_MIN` 16384: a request of
    16385 bytes gives 16386, not a page multiple, and `stack-size="-1"` (`SIZE_MAX`) wraps
    to 4094, below the minimum. -/
theorem plugin_stack_size_not_rounded :
    plugin_stack_size 4096 16384 16385 = 16386 ∧ plugin_stack_size 4096 16384 (-1) = 4094 := by
  decide

end clearsync.main
