/-
# The bundled script

The one script that comes with the library advances a cycle. Stores that run
script texts are sent this text; the in-memory store recognises the text by its
digest and runs its native counterpart. Digests depend on every character.
-/

namespace Carousel

namespace Script

/-- The name of the bundled script. -/
def bundledName : String := "cycle_next"

/-- The lines of the bundled script, each of which ends with a line feed. -/
def bundledLines : List String :=
  ["-- Advances a cycle record by one element and returns the element it was on.",
    "--",
    "-- KEYS[1] = cycle record: field \"current\" plus fields \"0\"..\"n-1\"",
    "--",
    "-- Returns nil when the record does not exist.",
    "local key = KEYS[1]",
    "if redis.call('EXISTS', key) == 0 then",
    "  return false",
    "end",
    "",
    "local idx = tonumber(redis.call('HGET', key, 'current'))",
    "if idx == nil or idx < 0 or idx ~= math.floor(idx) then",
    "  return redis.error_reply('cycle ' .. key .. ' has a corrupt current index')",
    "end",
    "",
    "local value = redis.call('HGET', key, tostring(idx))",
    "if not value then",
    "  return redis.error_reply('cycle ' .. key .. ' has no element ' .. idx)",
    "end",
    "",
    "local n = 0",
    "for _, field in ipairs(redis.call('HKEYS', key)) do",
    "  if string.match(field, '^%d+$') then",
    "    n = n + 1",
    "  end",
    "end",
    "",
    "redis.call('HSET', key, 'current', tostring((idx + 1) % n))",
    "return value"]

/-- The text of the bundled script. -/
def bundledBody : String :=
  bundledLines.foldr (fun line rest => line ++ "\n" ++ rest) ""

end Script

end Carousel
