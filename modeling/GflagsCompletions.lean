import GflagsCompletions.Core.StdString
import GflagsCompletions.Core.FlagInfo
import GflagsCompletions.Search.Canonicalize
import GflagsCompletions.Search.Matching
import GflagsCompletions.Search.Relevance
import GflagsCompletions.Output.FlagLines
import GflagsCompletions.Output.Finalize
import GflagsCompletions.Pipeline.PrintCompletions
import GflagsCompletions.Pipeline.ShellOrder
import GflagsCompletions.Pipeline.LineBreaks
import GflagsCompletions.Pipeline.LongFormat
