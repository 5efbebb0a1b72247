/-!
Shell completion scripts: each runs the program's hidden completion command on
the words typed and offers what it prints, then the directive's bits (1 error,
2 no space, 4 no files, 8 and 16 files by extension or directories, 32 keep
the order).
-/

namespace JuryCaptions
namespace CommandLine

/-- A program name padded with blanks to 36 characters, as script headers show it. -/
def paddedName (name : String) : String := name ++ String.ofList (List.replicate (36 - name.length) ' ')

/-- A program name as a shell variable may hold it: dashes and colons become
underscores. -/
def variableName (name : String) : String :=
  String.ofList (name.toList.map fun c => if c = '-' ∨ c = ':' then '_' else c)

def activeHelpVariable (name : String) : String :=
  String.ofList ((name ++ "_ACTIVE_HELP").toList.map fun c => if c = '-' then '_' else c.toUpper)

/-- What a hole of a script stands for: `%N` the program's name, `%R` the
completion request, `%P` the padded name, `%H` the active-help variable,
`%V` the name as a variable, `%F` the prefix of its functions, `%D` its debug
function, `%(` and `%)` the two braces and `%G` a backquote. -/
def hole (name request : String) : Char → Option String
  | 'N' => some name
  | '(' => some "\x7b"
  | ')' => some "\x7d"
  | 'G' => some "\x60"
  | 'D' => some ("__" ++ name ++ "_debug")
  | 'F' => some ("__" ++ name ++ "_")
  | 'R' => some request
  | 'P' => some (paddedName name)
  | 'H' => some (activeHelpVariable name)
  | 'V' => some (variableName name)
  | _ => none

/-- A script text with its holes filled in one pass; any other `%` stands for
itself, and a tab for the four blanks of one level of indent. -/
def fill (name request : String) : List Char → List Char
  | '%' :: rest@(k :: more) =>
    match hole name request k with
    | some v => v.toList ++ fill name request more
    | none => '%' :: fill name request rest
  | '\t' :: rest => ' ' :: ' ' :: ' ' :: ' ' :: fill name request rest
  | c :: rest => c :: fill name request rest
  | [] => []

def fillScript (name request text : String) : String := String.ofList (fill name request text.toList)

/-- The bash completion script of a program, for bash-completion version 2. It asks the program for completions with the command `request`. -/
def bashScript (name request : String) : String :=
  fillScript name request r#"# bash completion V2 for %P -*- shell-script -*-

%D()
%(
	if [[ -n $%(BASH_COMP_DEBUG_FILE-%) ]]; then
		echo "$*" >> "$%(BASH_COMP_DEBUG_FILE%)"
	fi
%)

# Macs have bash3 for which the bash-completion package doesn't include
# _init_completion. This is a minimal version of that function.
%Finit_completion()
%(
	COMPREPLY=()
	_get_comp_words_by_ref "$@" cur prev words cword
%)

# This function calls the %N program to obtain the completion
# results and the directive.  It fills the 'out' and 'directive' vars.
%Fget_completion_results() %(
	local requestComp lastParam lastChar args

	# Prepare the command to request completions for the program.
	# Calling $%(words[0]%) instead of directly %N allows handling aliases
	args=("$%(words[@]:1%)")
	requestComp="$%(words[0]%) %R $%(args[*]%)"

	lastParam=$%(words[$(($%(#words[@]%)-1))]%)
	lastChar=$%(lastParam:$(($%(#lastParam%)-1)):1%)
	%D "lastParam $%(lastParam%), lastChar $%(lastChar%)"

	if [[ -z $%(cur%) && $%(lastChar%) != = ]]; then
		# If the last parameter is complete (there is a space following it)
		# We add an extra empty parameter so we can indicate this to the go method.
		%D "Adding extra empty parameter"
		requestComp="$%(requestComp%) ''"
	fi

	# When completing a flag with an = (e.g., %N -n=<TAB>)
	# bash focuses on the part after the =, so we need to remove
	# the flag part from $cur
	if [[ $%(cur%) == -*=* ]]; then
		cur="$%(cur#*=%)"
	fi

	%D "Calling $%(requestComp%)"
	# Use eval to handle any environment variables and such
	out=$(eval "$%(requestComp%)" 2>/dev/null)

	# Extract the directive integer at the very end of the output following a colon (:)
	directive=$%(out##*:%)
	# Remove the directive
	out=$%(out%:*%)
	if [[ $%(directive%) == "$%(out%)" ]]; then
		# There is not directive specified
		directive=0
	fi
	%D "The completion directive is: $%(directive%)"
	%D "The completions are: $%(out%)"
%)

%Fprocess_completion_results() %(
	local shellCompDirectiveError=1
	local shellCompDirectiveNoSpace=2
	local shellCompDirectiveNoFileComp=4
	local shellCompDirectiveFilterFileExt=8
	local shellCompDirectiveFilterDirs=16
	local shellCompDirectiveKeepOrder=32

	if (((directive & shellCompDirectiveError) != 0)); then
		# Error code.  No completion.
		%D "Received error from custom completion go code"
		return
	else
		if (((directive & shellCompDirectiveNoSpace) != 0)); then
			if [[ $(type -t compopt) == builtin ]]; then
				%D "Activating no space"
				compopt -o nospace
			else
				%D "No space directive not supported in this version of bash"
			fi
		fi
		if (((directive & shellCompDirectiveKeepOrder) != 0)); then
			if [[ $(type -t compopt) == builtin ]]; then
				# no sort isn't supported for bash less than < 4.4
				if [[ $%(BASH_VERSINFO[0]%) -lt 4 || ( $%(BASH_VERSINFO[0]%) -eq 4 && $%(BASH_VERSINFO[1]%) -lt 4 ) ]]; then
					%D "No sort directive not supported in this version of bash"
				else
					%D "Activating keep order"
					compopt -o nosort
				fi
			else
				%D "No sort directive not supported in this version of bash"
			fi
		fi
		if (((directive & shellCompDirectiveNoFileComp) != 0)); then
			if [[ $(type -t compopt) == builtin ]]; then
				%D "Activating no file completion"
				compopt +o default
			else
				%D "No file completion directive not supported in this version of bash"
			fi
		fi
	fi

	# Separate activeHelp from normal completions
	local completions=()
	local activeHelp=()
	%Fextract_activeHelp

	if (((directive & shellCompDirectiveFilterFileExt) != 0)); then
		# File extension filtering
		local fullFilter="" filter filteringCmd

		# Do not use quotes around the $completions variable or else newline
		# characters will be kept.
		for filter in $%(completions[*]%); do
			fullFilter+="$filter|"
		done

		filteringCmd="_filedir $fullFilter"
		%D "File filtering command: $filteringCmd"
		$filteringCmd
	elif (((directive & shellCompDirectiveFilterDirs) != 0)); then
		# File completion for directories only

		local subdir
		subdir=$%(completions[0]%)
		if [[ -n $subdir ]]; then
			%D "Listing directories in $subdir"
			pushd "$subdir" >/dev/null 2>&1 && _filedir -d && popd >/dev/null 2>&1 || return
		else
			%D "Listing directories in ."
			_filedir -d
		fi
	else
		%Fhandle_completion_types
	fi

	%Fhandle_special_char "$cur" :
	%Fhandle_special_char "$cur" =

	# Print the activeHelp statements before we finish
	%Fhandle_activeHelp
%)

%Fhandle_activeHelp() %(
	# Print the activeHelp statements
	if (($%(#activeHelp[*]%) != 0)); then
		if [ -z $COMP_TYPE ]; then
			# Bash v3 does not set the COMP_TYPE variable.
			printf "\n";
			printf "%s\n" "$%(activeHelp[@]%)"
			printf "\n"
			%Freprint_commandLine
			return
		fi

		# Only print ActiveHelp on the second TAB press
		if [ $COMP_TYPE -eq 63 ]; then
			printf "\n"
			printf "%s\n" "$%(activeHelp[@]%)"

			if (($%(#COMPREPLY[*]%) == 0)); then
				# When there are no completion choices from the program, file completion
				# may kick in if the program has not disabled it; in such a case, we want
				# to know if any files will match what the user typed, so that we know if
				# there will be completions presented, so that we know how to handle ActiveHelp.
				# To find out, we actually trigger the file completion ourselves;
				# the call to _filedir will fill COMPREPLY if files match.
				if (((directive & shellCompDirectiveNoFileComp) == 0)); then
					%D "Listing files"
					_filedir
				fi
			fi

			if (($%(#COMPREPLY[*]%) != 0)); then
				# If there are completion choices to be shown, print a delimiter.
				# Re-printing the command-line will automatically be done
				# by the shell when it prints the completion choices.
				printf -- "--"
			else
				# When there are no completion choices at all, we need
				# to re-print the command-line since the shell will
				# not be doing it itself.
				%Freprint_commandLine
			fi
		elif [ $COMP_TYPE -eq 37 ] || [ $COMP_TYPE -eq 42 ]; then
			# For completion type: menu-complete/menu-complete-backward and insert-completions
			# the completions are immediately inserted into the command-line, so we first
			# print the activeHelp message and reprint the command-line since the shell won't.
			printf "\n"
			printf "%s\n" "$%(activeHelp[@]%)"

			%Freprint_commandLine
		fi
	fi
%)

%Freprint_commandLine() %(
	# The prompt format is only available from bash 4.4.
	# We test if it is available before using it.
	if (x=$%(PS1@P%)) 2> /dev/null; then
		printf "%s" "$%(PS1@P%)$%(COMP_LINE[@]%)"
	else
		# Can't print the prompt.  Just print the
		# text the user had typed, it is workable enough.
		printf "%s" "$%(COMP_LINE[@]%)"
	fi
%)

# Separate activeHelp lines from real completions.
# Fills the $activeHelp and $completions arrays.
%Fextract_activeHelp() %(
	local activeHelpMarker="_activeHelp_ "
	local endIndex=$%(#activeHelpMarker%)

	while IFS='' read -r comp; do
		[[ -z $comp ]] && continue

		if [[ $%(comp:0:endIndex%) == $activeHelpMarker ]]; then
			comp=$%(comp:endIndex%)
			%D "ActiveHelp found: $comp"
			if [[ -n $comp ]]; then
				activeHelp+=("$comp")
			fi
		else
			# Not an activeHelp line but a normal completion
			completions+=("$comp")
		fi
	done <<<"$%(out%)"
%)

%Fhandle_completion_types() %(
	%D "%Fhandle_completion_types: COMP_TYPE is $COMP_TYPE"

	case $COMP_TYPE in
	37|42)
		# Type: menu-complete/menu-complete-backward and insert-completions
		# If the user requested inserting one completion at a time, or all
		# completions at once on the command-line we must remove the descriptions.
		# https://github.com/spf13/cobra/issues/1508

		# If there are no completions, we don't need to do anything
		(( $%(#completions[@]%) == 0 )) && return 0

		local tab=$'\t'

		# Strip any description and escape the completion to handled special characters
		IFS=$'\n' read -ra completions -d '' < <(printf "%q\n" "$%(completions[@]%%$tab*%)")

		# Only consider the completions that match
		IFS=$'\n' read -ra COMPREPLY -d '' < <(IFS=$'\n'; compgen -W "$%(completions[*]%)" -- "$%(cur%)")

		# compgen looses the escaping so we need to escape all completions again since they will
		# all be inserted on the command-line.
		IFS=$'\n' read -ra COMPREPLY -d '' < <(printf "%q\n" "$%(COMPREPLY[@]%)")
		;;

	*)
		# Type: complete (normal completion)
		%Fhandle_standard_completion_case
		;;
	esac
%)

%Fhandle_standard_completion_case() %(
	local tab=$'\t'

	# If there are no completions, we don't need to do anything
	(( $%(#completions[@]%) == 0 )) && return 0

	# Short circuit to optimize if we don't have descriptions
	if [[ "$%(completions[*]%)" != *$tab* ]]; then
		# First, escape the completions to handle special characters
		IFS=$'\n' read -ra completions -d '' < <(printf "%q\n" "$%(completions[@]%)")
		# Only consider the completions that match what the user typed
		IFS=$'\n' read -ra COMPREPLY -d '' < <(IFS=$'\n'; compgen -W "$%(completions[*]%)" -- "$%(cur%)")

		# compgen looses the escaping so, if there is only a single completion, we need to
		# escape it again because it will be inserted on the command-line.  If there are multiple
		# completions, we don't want to escape them because they will be printed in a list
		# and we don't want to show escape characters in that list.
		if (( $%(#COMPREPLY[@]%) == 1 )); then
			COMPREPLY[0]=$(printf "%q" "$%(COMPREPLY[0]%)")
		fi
		return 0
	fi

	local longest=0
	local compline
	# Look for the longest completion so that we can format things nicely
	while IFS='' read -r compline; do
		[[ -z $compline ]] && continue

		# Before checking if the completion matches what the user typed,
		# we need to strip any description and escape the completion to handle special
		# characters because those escape characters are part of what the user typed.
		# Don't call "printf" in a sub-shell because it will be much slower
		# since we are in a loop.
		printf -v comp "%q" "$%(compline%%$tab*%)" &>/dev/null || comp=$(printf "%q" "$%(compline%%$tab*%)")

		# Only consider the completions that match
		[[ $comp == "$cur"* ]] || continue

		# The completions matches.  Add it to the list of full completions including
		# its description.  We don't escape the completion because it may get printed
		# in a list if there are more than one and we don't want show escape characters
		# in that list.
		COMPREPLY+=("$compline")

		# Strip any description before checking the length, and again, don't escape
		# the completion because this length is only used when printing the completions
		# in a list and we don't want show escape characters in that list.
		comp=$%(compline%%$tab*%)
		if (($%(#comp%)>longest)); then
			longest=$%(#comp%)
		fi
	done < <(printf "%s\n" "$%(completions[@]%)")

	# If there is a single completion left, remove the description text and escape any special characters
	if (($%(#COMPREPLY[*]%) == 1)); then
		%D "COMPREPLY[0]: $%(COMPREPLY[0]%)"
		COMPREPLY[0]=$(printf "%q" "$%(COMPREPLY[0]%%$tab*%)")
		%D "Removed description from single completion, which is now: $%(COMPREPLY[0]%)"
	else
		# Format the descriptions
		%Fformat_comp_descriptions $longest
	fi
%)

%Fhandle_special_char()
%(
	local comp="$1"
	local char=$2
	if [[ "$comp" == *$%(char%)* && "$COMP_WORDBREAKS" == *$%(char%)* ]]; then
		local word=$%(comp%"$%(comp##*$%(char%)%)"%)
		local idx=$%(#COMPREPLY[*]%)
		while ((--idx >= 0)); do
			COMPREPLY[idx]=$%(COMPREPLY[idx]#"$word"%)
		done
	fi
%)

%Fformat_comp_descriptions()
%(
	local tab=$'\t'
	local comp desc maxdesclength
	local longest=$1

	local i ci
	for ci in $%(!COMPREPLY[*]%); do
		comp=$%(COMPREPLY[ci]%)
		# Properly format the description string which follows a tab character if there is one
		if [[ "$comp" == *$tab* ]]; then
			%D "Original comp: $comp"
			desc=$%(comp#*$tab%)
			comp=$%(comp%%$tab*%)

			# $COLUMNS stores the current shell width.
			# Remove an extra 4 because we add 2 spaces and 2 parentheses.
			maxdesclength=$(( COLUMNS - longest - 4 ))

			# Make sure we can fit a description of at least 8 characters
			# if we are to align the descriptions.
			if ((maxdesclength > 8)); then
				# Add the proper number of spaces to align the descriptions
				for ((i = $%(#comp%) ; i < longest ; i++)); do
					comp+=" "
				done
			else
				# Don't pad the descriptions so we can fit more text after the completion
				maxdesclength=$(( COLUMNS - $%(#comp%) - 4 ))
			fi

			# If there is enough space for any description text,
			# truncate the descriptions that are too long for the shell width
			if ((maxdesclength > 0)); then
				if (($%(#desc%) > maxdesclength)); then
					desc=$%(desc:0:$(( maxdesclength - 1 ))%)
					desc+="…"
				fi
				comp+="  ($desc)"
			fi
			COMPREPLY[ci]=$comp
			%D "Final comp: $comp"
		fi
	done
%)

__start_%N()
%(
	local cur prev words cword split

	COMPREPLY=()

	# Call _init_completion from the bash-completion package
	# to prepare the arguments properly
	if declare -F _init_completion >/dev/null 2>&1; then
		_init_completion -n =: || return
	else
		%Finit_completion -n =: || return
	fi

	%D
	%D "========= starting completion logic =========="
	%D "cur is $%(cur%), words[*] is $%(words[*]%), #words[@] is $%(#words[@]%), cword is $cword"

	# The user could have moved the cursor backwards on the command-line.
	# We need to trigger completion from the $cword location, so we need
	# to truncate the command-line ($words) up to the $cword location.
	words=("$%(words[@]:0:$cword+1%)")
	%D "Truncated words[*]: $%(words[*]%),"

	local out directive
	%Fget_completion_results
	%Fprocess_completion_results
%)

if [[ $(type -t compopt) = "builtin" ]]; then
	complete -o default -F __start_%N %N
else
	complete -o default -o nospace -F __start_%N %N
fi

# ex: ts=4 sw=4 et filetype=sh
"#

/-- The zsh completion script of a program. It asks the program for completions with the command `request`. -/
def zshScript (name request : String) : String :=
  fillScript name request r#"#compdef %N
compdef _%N %N

# zsh completion for %P -*- shell-script -*-

%D()
%(
	local file="$BASH_COMP_DEBUG_FILE"
	if [[ -n $%(file%) ]]; then
		echo "$*" >> "$%(file%)"
	fi
%)

_%N()
%(
	local shellCompDirectiveError=1
	local shellCompDirectiveNoSpace=2
	local shellCompDirectiveNoFileComp=4
	local shellCompDirectiveFilterFileExt=8
	local shellCompDirectiveFilterDirs=16
	local shellCompDirectiveKeepOrder=32

	local lastParam lastChar flagPrefix requestComp out directive comp lastComp noSpace keepOrder
	local -a completions

	%D "\n========= starting completion logic =========="
	%D "CURRENT: $%(CURRENT%), words[*]: $%(words[*]%)"

	# The user could have moved the cursor backwards on the command-line.
	# We need to trigger completion from the $CURRENT location, so we need
	# to truncate the command-line ($words) up to the $CURRENT location.
	# (We cannot use $CURSOR as its value does not work when a command is an alias.)
	words=("$%(=words[1,CURRENT]%)")
	%D "Truncated words[*]: $%(words[*]%),"

	lastParam=$%(words[-1]%)
	lastChar=$%(lastParam[-1]%)
	%D "lastParam: $%(lastParam%), lastChar: $%(lastChar%)"

	# For zsh, when completing a flag with an = (e.g., %N -n=<TAB>)
	# completions must be prefixed with the flag
	setopt local_options BASH_REMATCH
	if [[ "$%(lastParam%)" =~ '-.*=' ]]; then
		# We are dealing with a flag with an =
		flagPrefix="-P $%(BASH_REMATCH%)"
	fi

	# Prepare the command to obtain completions
	requestComp="$%(words[1]%) %R $%(words[2,-1]%)"
	if [ "$%(lastChar%)" = "" ]; then
		# If the last parameter is complete (there is a space following it)
		# We add an extra empty parameter so we can indicate this to the go completion code.
		%D "Adding extra empty parameter"
		requestComp="$%(requestComp%) \"\""
	fi

	%D "About to call: eval $%(requestComp%)"

	# Use eval to handle any environment variables and such
	out=$(eval $%(requestComp%) 2>/dev/null)
	%D "completion output: $%(out%)"

	# Extract the directive integer following a : from the last line
	local lastLine
	while IFS='\n' read -r line; do
		lastLine=$%(line%)
	done < <(printf "%s\n" "$%(out[@]%)")
	%D "last line: $%(lastLine%)"

	if [ "$%(lastLine[1]%)" = : ]; then
		directive=$%(lastLine[2,-1]%)
		# Remove the directive including the : and the newline
		local suffix
		(( suffix=$%(#lastLine%)+2))
		out=$%(out[1,-$suffix]%)
	else
		# There is no directive specified.  Leave $out as is.
		%D "No directive found.  Setting do default"
		directive=0
	fi

	%D "directive: $%(directive%)"
	%D "completions: $%(out%)"
	%D "flagPrefix: $%(flagPrefix%)"

	if [ $((directive & shellCompDirectiveError)) -ne 0 ]; then
		%D "Completion received error. Ignoring completions."
		return
	fi

	local activeHelpMarker="_activeHelp_ "
	local endIndex=$%(#activeHelpMarker%)
	local startIndex=$(($%(#activeHelpMarker%)+1))
	local hasActiveHelp=0
	while IFS='\n' read -r comp; do
		# Check if this is an activeHelp statement (i.e., prefixed with $activeHelpMarker)
		if [ "$%(comp[1,$endIndex]%)" = "$activeHelpMarker" ];then
			%D "ActiveHelp found: $comp"
			comp="$%(comp[$startIndex,-1]%)"
			if [ -n "$comp" ]; then
				compadd -x "$%(comp%)"
				%D "ActiveHelp will need delimiter"
				hasActiveHelp=1
			fi

			continue
		fi

		if [ -n "$comp" ]; then
			# If requested, completions are returned with a description.
			# The description is preceded by a TAB character.
			# For zsh's _describe, we need to use a : instead of a TAB.
			# We first need to escape any : as part of the completion itself.
			comp=$%(comp//:/\\:%)

			local tab="$(printf '\t')"
			comp=$%(comp//$tab/:%)

			%D "Adding completion: $%(comp%)"
			completions+=$%(comp%)
			lastComp=$comp
		fi
	done < <(printf "%s\n" "$%(out[@]%)")

	# Add a delimiter after the activeHelp statements, but only if:
	# - there are completions following the activeHelp statements, or
	# - file completion will be performed (so there will be choices after the activeHelp)
	if [ $hasActiveHelp -eq 1 ]; then
		if [ $%(#completions%) -ne 0 ] || [ $((directive & shellCompDirectiveNoFileComp)) -eq 0 ]; then
			%D "Adding activeHelp delimiter"
			compadd -x "--"
			hasActiveHelp=0
		fi
	fi

	if [ $((directive & shellCompDirectiveNoSpace)) -ne 0 ]; then
		%D "Activating nospace."
		noSpace="-S ''"
	fi

	if [ $((directive & shellCompDirectiveKeepOrder)) -ne 0 ]; then
		%D "Activating keep order."
		keepOrder="-V"
	fi

	if [ $((directive & shellCompDirectiveFilterFileExt)) -ne 0 ]; then
		# File extension filtering
		local filteringCmd
		filteringCmd='_files'
		for filter in $%(completions[@]%); do
			if [ $%(filter[1]%) != '*' ]; then
				# zsh requires a glob pattern to do file filtering
				filter="\*.$filter"
			fi
			filteringCmd+=" -g $filter"
		done
		filteringCmd+=" $%(flagPrefix%)"

		%D "File filtering command: $filteringCmd"
		_arguments '*:filename:'"$filteringCmd"
	elif [ $((directive & shellCompDirectiveFilterDirs)) -ne 0 ]; then
		# File completion for directories only
		local subdir
		subdir="$%(completions[1]%)"
		if [ -n "$subdir" ]; then
			%D "Listing directories in $subdir"
			pushd "$%(subdir%)" >/dev/null 2>&1
		else
			%D "Listing directories in ."
		fi

		local result
		_arguments '*:dirname:_files -/'" $%(flagPrefix%)"
		result=$?
		if [ -n "$subdir" ]; then
			popd >/dev/null 2>&1
		fi
		return $result
	else
		%D "Calling _describe"
		if eval _describe $keepOrder "completions" completions $flagPrefix $noSpace; then
			%D "_describe found some completions"

			# Return the success of having called _describe
			return 0
		else
			%D "_describe did not find completions."
			%D "Checking if we should do file completion."
			if [ $((directive & shellCompDirectiveNoFileComp)) -ne 0 ]; then
				%D "deactivating file completion"

				# We must return an error code here to let zsh know that there were no
				# completions found by _describe; this is what will trigger other
				# matching algorithms to attempt to find completions.
				# For example zsh can match letters in the middle of words.
				return 1
			else
				# Perform file completion
				%D "Activating file completion"

				# We must return the result of this command, so it must be the
				# last command, or else we must store its result to return it.
				_arguments '*:filename:_files'" $%(flagPrefix%)"
			fi
		fi
	fi
%)

# don't run the completion function when being source-ed or eval-ed
if [ "$funcstack[1]" = "_%N" ]; then
	_%N
fi
"#

/-- The fish completion script of a program. It asks the program for completions with the command `request`. -/
def fishScript (name request : String) : String :=
  fillScript name request r#"# fish completion for %P -*- shell-script -*-

function %D
	set -l file "$BASH_COMP_DEBUG_FILE"
	if test -n "$file"
		echo "$argv" >> $file
	end
end

function %Fperform_completion
	%D "Starting %Fperform_completion"

	# Extract all args except the last one
	set -l args (commandline -opc)
	# Extract the last arg and escape it in case it is a space
	set -l lastArg (string escape -- (commandline -ct))

	%D "args: $args"
	%D "last arg: $lastArg"

	# Disable ActiveHelp which is not supported for fish shell
	set -l requestComp "%H=0 $args[1] %R $args[2..-1] $lastArg"

	%D "Calling $requestComp"
	set -l results (eval $requestComp 2> /dev/null)

	# Some programs may output extra empty lines after the directive.
	# Let's ignore them or else it will break completion.
	# Ref: https://github.com/spf13/cobra/issues/1279
	for line in $results[-1..1]
		if test (string trim -- $line) = ""
			# Found an empty line, remove it
			set results $results[1..-2]
		else
			# Found non-empty line, we have our proper output
			break
		end
	end

	set -l comps $results[1..-2]
	set -l directiveLine $results[-1]

	# For Fish, when completing a flag with an = (e.g., <program> -n=<TAB>)
	# completions must be prefixed with the flag
	set -l flagPrefix (string match -r -- '-.*=' "$lastArg")

	%D "Comps: $comps"
	%D "DirectiveLine: $directiveLine"
	%D "flagPrefix: $flagPrefix"

	for comp in $comps
		printf "%s%s\n" "$flagPrefix" "$comp"
	end

	printf "%s\n" "$directiveLine"
end

# this function limits calls to %Fperform_completion, by caching the result behind $%Fperform_completion_once_result
function %Fperform_completion_once
	%D "Starting %Fperform_completion_once"

	if test -n "$%Fperform_completion_once_result"
		%D "Seems like a valid result already exists, skipping %Fperform_completion"
		return 0
	end

	set --global %Fperform_completion_once_result (%Fperform_completion)
	if test -z "$%Fperform_completion_once_result"
		%D "No completions, probably due to a failure"
		return 1
	end

	%D "Performed completions and set %Fperform_completion_once_result"
	return 0
end

# this function is used to clear the $%Fperform_completion_once_result variable after completions are run
function %Fclear_perform_completion_once_result
	%D ""
	%D "========= clearing previously set %Fperform_completion_once_result variable =========="
	set --erase %Fperform_completion_once_result
	%D "Successfully erased the variable %Fperform_completion_once_result"
end

function %Frequires_order_preservation
	%D ""
	%D "========= checking if order preservation is required =========="

	%Fperform_completion_once
	if test -z "$%Fperform_completion_once_result"
		%D "Error determining if order preservation is required"
		return 1
	end

	set -l directive (string sub --start 2 $%Fperform_completion_once_result[-1])
	%D "Directive is: $directive"

	set -l shellCompDirectiveKeepOrder 32
	set -l keeporder (math (math --scale 0 $directive / $shellCompDirectiveKeepOrder) % 2)
	%D "Keeporder is: $keeporder"

	if test $keeporder -ne 0
		%D "This does require order preservation"
		return 0
	end

	%D "This doesn't require order preservation"
	return 1
end


# This function does two things:
# - Obtain the completions and store them in the global %Fcomp_results
# - Return false if file completion should be performed
function %Fprepare_completions
	%D ""
	%D "========= starting completion logic =========="

	# Start fresh
	set --erase %Fcomp_results

	%Fperform_completion_once
	%D "Completion results: $%Fperform_completion_once_result"

	if test -z "$%Fperform_completion_once_result"
		%D "No completion, probably due to a failure"
		# Might as well do file completion, in case it helps
		return 1
	end

	set -l directive (string sub --start 2 $%Fperform_completion_once_result[-1])
	set --global %Fcomp_results $%Fperform_completion_once_result[1..-2]

	%D "Completions are: $%Fcomp_results"
	%D "Directive is: $directive"

	set -l shellCompDirectiveError 1
	set -l shellCompDirectiveNoSpace 2
	set -l shellCompDirectiveNoFileComp 4
	set -l shellCompDirectiveFilterFileExt 8
	set -l shellCompDirectiveFilterDirs 16

	if test -z "$directive"
		set directive 0
	end

	set -l compErr (math (math --scale 0 $directive / $shellCompDirectiveError) % 2)
	if test $compErr -eq 1
		%D "Received error directive: aborting."
		# Might as well do file completion, in case it helps
		return 1
	end

	set -l filefilter (math (math --scale 0 $directive / $shellCompDirectiveFilterFileExt) % 2)
	set -l dirfilter (math (math --scale 0 $directive / $shellCompDirectiveFilterDirs) % 2)
	if test $filefilter -eq 1; or test $dirfilter -eq 1
		%D "File extension filtering or directory filtering not supported"
		# Do full file completion instead
		return 1
	end

	set -l nospace (math (math --scale 0 $directive / $shellCompDirectiveNoSpace) % 2)
	set -l nofiles (math (math --scale 0 $directive / $shellCompDirectiveNoFileComp) % 2)

	%D "nospace: $nospace, nofiles: $nofiles"

	# If we want to prevent a space, or if file completion is NOT disabled,
	# we need to count the number of valid completions.
	# To do so, we will filter on prefix as the completions we have received
	# may not already be filtered so as to allow fish to match on different
	# criteria than the prefix.
	if test $nospace -ne 0; or test $nofiles -eq 0
		set -l prefix (commandline -t | string escape --style=regex)
		%D "prefix: $prefix"

		set -l completions (string match -r -- "^$prefix.*" $%Fcomp_results)
		set --global %Fcomp_results $completions
		%D "Filtered completions are: $%Fcomp_results"

		# Important not to quote the variable for count to work
		set -l numComps (count $%Fcomp_results)
		%D "numComps: $numComps"

		if test $numComps -eq 1; and test $nospace -ne 0
			# We must first split on \t to get rid of the descriptions to be
			# able to check what the actual completion will be.
			# We don't need descriptions anyway since there is only a single
			# real completion which the shell will expand immediately.
			set -l split (string split --max 1 \t $%Fcomp_results[1])

			# Fish won't add a space if the completion ends with any
			# of the following characters: @=/:.,
			set -l lastChar (string sub -s -1 -- $split)
			if not string match -r -q "[@=/:.,]" -- "$lastChar"
				# In other cases, to support the "nospace" directive we trick the shell
				# by outputting an extra, longer completion.
				%D "Adding second completion to perform nospace directive"
				set --global %Fcomp_results $split[1] $split[1].
				%D "Completions are now: $%Fcomp_results"
			end
		end

		if test $numComps -eq 0; and test $nofiles -eq 0
			# To be consistent with bash and zsh, we only trigger file
			# completion when there are no other completions
			%D "Requesting file completion"
			return 1
		end
	end

	return 0
end

# Since Fish completions are only loaded once the user triggers them, we trigger them ourselves
# so we can properly delete any completions provided by another script.
# Only do this if the program can be found, or else fish may print some errors; besides,
# the existing completions will only be loaded if the program can be found.
if type -q "%N"
	# The space after the program name is essential to trigger completion for the program
	# and not completion of the program name itself.
	# Also, we use '> /dev/null 2>&1' since '&>' is not supported in older versions of fish.
	complete --do-complete "%N " > /dev/null 2>&1
end

# Remove any pre-existing completions for the program since we will be handling all of them.
complete -c %N -e

# this will get called after the two calls below and clear the $%Fperform_completion_once_result global
complete -c %N -n '%Fclear_perform_completion_once_result'
# The call to %Fprepare_completions will setup %Fcomp_results
# which provides the program's completion choices.
# If this doesn't require order preservation, we don't use the -k flag
complete -c %N -n 'not %Frequires_order_preservation && %Fprepare_completions' -f -a '$%Fcomp_results'
# otherwise we use the -k flag
complete -k -c %N -n '%Frequires_order_preservation && %Fprepare_completions' -f -a '$%Fcomp_results'
"#

/-- The PowerShell completion script of a program. It asks the program for completions with the command `request`. -/
def powershellScript (name request : String) : String :=
  fillScript name request r#"# powershell completion for %P -*- shell-script -*-

function %D %(
	if ($env:BASH_COMP_DEBUG_FILE) %(
		"$args" | Out-File -Append -FilePath "$env:BASH_COMP_DEBUG_FILE"
	%)
%)

filter %FescapeStringWithSpecialChars %(
	$_ -replace '\s|#|@|\$|;|,|''|\%(|\%)|\(|\)|"|%G|\||<|>|&','%G$&'
%)

[scriptblock]$%(__%VCompleterBlock%) = %(
	param(
			$WordToComplete,
			$CommandAst,
			$CursorPosition
		)

	# Get the current command line and convert into a string
	$Command = $CommandAst.CommandElements
	$Command = "$Command"

	%D ""
	%D "========= starting completion logic =========="
	%D "WordToComplete: $WordToComplete Command: $Command CursorPosition: $CursorPosition"

	# The user could have moved the cursor backwards on the command-line.
	# We need to trigger completion from the $CursorPosition location, so we need
	# to truncate the command-line ($Command) up to the $CursorPosition location.
	# Make sure the $Command is longer then the $CursorPosition before we truncate.
	# This happens because the $Command does not include the last space.
	if ($Command.Length -gt $CursorPosition) %(
		$Command=$Command.Substring(0,$CursorPosition)
	%)
	%D "Truncated command: $Command"

	$ShellCompDirectiveError=1
	$ShellCompDirectiveNoSpace=2
	$ShellCompDirectiveNoFileComp=4
	$ShellCompDirectiveFilterFileExt=8
	$ShellCompDirectiveFilterDirs=16
	$ShellCompDirectiveKeepOrder=32

	# Prepare the command to request completions for the program.
	# Split the command at the first space to separate the program and arguments.
	$Program,$Arguments = $Command.Split(" ",2)

	$RequestComp="$Program %R $Arguments"
	%D "RequestComp: $RequestComp"

	# we cannot use $WordToComplete because it
	# has the wrong values if the cursor was moved
	# so use the last argument
	if ($WordToComplete -ne "" ) %(
		$WordToComplete = $Arguments.Split(" ")[-1]
	%)
	%D "New WordToComplete: $WordToComplete"


	# Check for flag with equal sign
	$IsEqualFlag = ($WordToComplete -Like "--*=*" )
	if ( $IsEqualFlag ) %(
		%D "Completing equal sign flag"
		# Remove the flag part
		$Flag,$WordToComplete = $WordToComplete.Split("=",2)
	%)

	if ( $WordToComplete -eq "" -And ( -Not $IsEqualFlag )) %(
		# If the last parameter is complete (there is a space following it)
		# We add an extra empty parameter so we can indicate this to the go method.
		%D "Adding extra empty parameter"
		# PowerShell 7.2+ changed the way how the arguments are passed to executables,
		# so for pre-7.2 or when Legacy argument passing is enabled we need to use
		# %G"%G" to pass an empty argument, a "" or '' does not work!!!
		if ($PSVersionTable.PsVersion -lt [version]'7.2.0' -or
			($PSVersionTable.PsVersion -lt [version]'7.3.0' -and -not [ExperimentalFeature]::IsEnabled("PSNativeCommandArgumentPassing")) -or
			(($PSVersionTable.PsVersion -ge [version]'7.3.0' -or [ExperimentalFeature]::IsEnabled("PSNativeCommandArgumentPassing")) -and
			  $PSNativeCommandArgumentPassing -eq 'Legacy')) %(
			 $RequestComp="$RequestComp" + ' %G"%G"'
		%) else %(
			 $RequestComp="$RequestComp" + ' ""'
		%)
	%)

	%D "Calling $RequestComp"
	# First disable ActiveHelp which is not supported for Powershell
	$%(env:%H%)=0

	#call the command store the output in $out and redirect stderr and stdout to null
	# $Out is an array contains each line per element
	Invoke-Expression -OutVariable out "$RequestComp" 2>&1 | Out-Null

	# get directive from last line
	[int]$Directive = $Out[-1].TrimStart(':')
	if ($Directive -eq "") %(
		# There is no directive specified
		$Directive = 0
	%)
	%D "The completion directive is: $Directive"

	# remove directive (last element) from out
	$Out = $Out | Where-Object %( $_ -ne $Out[-1] %)
	%D "The completions are: $Out"

	if (($Directive -band $ShellCompDirectiveError) -ne 0 ) %(
		# Error code.  No completion.
		%D "Received error from custom completion go code"
		return
	%)

	$Longest = 0
	[Array]$Values = $Out | ForEach-Object %(
		#Split the output in name and description
		$Name, $Description = $_.Split("%Gt",2)
		%D "Name: $Name Description: $Description"

		# Look for the longest completion so that we can format things nicely
		if ($Longest -lt $Name.Length) %(
			$Longest = $Name.Length
		%)

		# Set the description to a one space string if there is none set.
		# This is needed because the CompletionResult does not accept an empty string as argument
		if (-Not $Description) %(
			$Description = " "
		%)
		New-Object -TypeName PSCustomObject -Property @%(
			Name = "$Name"
			Description = "$Description"
		%)
	%)


	$Space = " "
	if (($Directive -band $ShellCompDirectiveNoSpace) -ne 0 ) %(
		# remove the space here
		%D "ShellCompDirectiveNoSpace is called"
		$Space = ""
	%)

	if ((($Directive -band $ShellCompDirectiveFilterFileExt) -ne 0 ) -or
	   (($Directive -band $ShellCompDirectiveFilterDirs) -ne 0 ))  %(
		%D "ShellCompDirectiveFilterFileExt ShellCompDirectiveFilterDirs are not supported"

		# return here to prevent the completion of the extensions
		return
	%)

	$Values = $Values | Where-Object %(
		# filter the result
		$_.Name -like "$WordToComplete*"

		# Join the flag back if we have an equal sign flag
		if ( $IsEqualFlag ) %(
			%D "Join the equal sign flag back to the completion value"
			$_.Name = $Flag + "=" + $_.Name
		%)
	%)

	# we sort the values in ascending order by name if keep order isn't passed
	if (($Directive -band $ShellCompDirectiveKeepOrder) -eq 0 ) %(
		$Values = $Values | Sort-Object -Property Name
	%)

	if (($Directive -band $ShellCompDirectiveNoFileComp) -ne 0 ) %(
		%D "ShellCompDirectiveNoFileComp is called"

		if ($Values.Length -eq 0) %(
			# Just print an empty string here so the
			# shell does not start to complete paths.
			# We cannot use CompletionResult here because
			# it does not accept an empty string as argument.
			""
			return
		%)
	%)

	# Get the current mode
	$Mode = (Get-PSReadLineKeyHandler | Where-Object %($_.Key -eq "Tab" %)).Function
	%D "Mode: $Mode"

	$Values | ForEach-Object %(

		# store temporary because switch will overwrite $_
		$comp = $_

		# PowerShell supports three different completion modes
		# - TabCompleteNext (default windows style - on each key press the next option is displayed)
		# - Complete (works like bash)
		# - MenuComplete (works like zsh)
		# You set the mode with Set-PSReadLineKeyHandler -Key Tab -Function <mode>

		# CompletionResult Arguments:
		# 1) CompletionText text to be used as the auto completion result
		# 2) ListItemText   text to be displayed in the suggestion list
		# 3) ResultType     type of completion result
		# 4) ToolTip        text for the tooltip with details about the object

		switch ($Mode) %(

			# bash like
			"Complete" %(

				if ($Values.Length -eq 1) %(
					%D "Only one completion left"

					# insert space after value
					$CompletionText = $($comp.Name | %FescapeStringWithSpecialChars) + $Space
					if ($ExecutionContext.SessionState.LanguageMode -eq "FullLanguage")%(
						[System.Management.Automation.CompletionResult]::new($CompletionText, "$($comp.Name)", 'ParameterValue', "$($comp.Description)")
					%) else %(
						$CompletionText
					%)

				%) else %(
					# Add the proper number of spaces to align the descriptions
					while($comp.Name.Length -lt $Longest) %(
						$comp.Name = $comp.Name + " "
					%)

					# Check for empty description and only add parentheses if needed
					if ($($comp.Description) -eq " " ) %(
						$Description = ""
					%) else %(
						$Description = "  ($($comp.Description))"
					%)

					$CompletionText = "$($comp.Name)$Description"
					if ($ExecutionContext.SessionState.LanguageMode -eq "FullLanguage")%(
						[System.Management.Automation.CompletionResult]::new($CompletionText, "$($comp.Name)$Description", 'ParameterValue', "$($comp.Description)")
					%) else %(
						$CompletionText
					%)
				%)
			 %)

			# zsh like
			"MenuComplete" %(
				# insert space after value
				# MenuComplete will automatically show the ToolTip of
				# the highlighted value at the bottom of the suggestions.

				$CompletionText = $($comp.Name | %FescapeStringWithSpecialChars) + $Space
				if ($ExecutionContext.SessionState.LanguageMode -eq "FullLanguage")%(
					[System.Management.Automation.CompletionResult]::new($CompletionText, "$($comp.Name)", 'ParameterValue', "$($comp.Description)")
				%) else %(
					$CompletionText
				%)
			%)

			# TabCompleteNext and in case we get something unknown
			Default %(
				# Like MenuComplete but we don't want to add a space here because
				# the user need to press space anyway to get the completion.
				# Description will not be shown because that's not possible with TabCompleteNext

				$CompletionText = $($comp.Name | %FescapeStringWithSpecialChars)
				if ($ExecutionContext.SessionState.LanguageMode -eq "FullLanguage")%(
					[System.Management.Automation.CompletionResult]::new($CompletionText, "$($comp.Name)", 'ParameterValue', "$($comp.Description)")
				%) else %(
					$CompletionText
				%)
			%)
		%)

	%)
%)

Register-ArgumentCompleter -CommandName '%N' -ScriptBlock $%(__%VCompleterBlock%)
"#

end CommandLine
end JuryCaptions
