/-!
# Names of characters from T to Z

An outline in words: a lower-case letter starts each name and says how many
words the name shares with the one before it, `a` for none, `b` for one and so
on. The words that it does not share follow.
-/

namespace SecurityRules.CharacterName

def namesFromTToZ : String :=
  "aT-REX aT-SHIRT aTAB aTABLE TENNIS PADDLE AND BALL aTACO aTAG AMPERSAND bAPOSTROPHE
    bASTERISK bCIRCUMFLEX ACCENT bCOLON bCOMMA bCOMMERCIAL AT bDIGIT EIGHT cFIVE cFOUR cNINE
    cONE cSEVEN cSIX cTHREE cTWO cZERO bDOLLAR SIGN bEQUALS SIGN bEXCLAMATION MARK bFULL STOP
    bGRAVE ACCENT bGREATER-THAN SIGN bHYPHEN-MINUS bLATIN CAPITAL LETTER A eB eC eD eE eF eG eH
    eI eJ eK eL eM eN eO eP eQ eR eS eT eU eV eW eX eY eZ cSMALL LETTER A eB eC eD eE eF eG eH
    eI eJ eK eL eM eN eO eP eQ eR eS eT eU eV eW eX eY eZ bLEFT CURLY BRACKET cPARENTHESIS
    cSQUARE BRACKET bLESS-THAN SIGN bLOW LINE bNUMBER SIGN bPERCENT SIGN bPLUS SIGN bQUESTION
    MARK bQUOTATION MARK bREVERSE SOLIDUS bRIGHT CURLY BRACKET cPARENTHESIS cSQUARE BRACKET
    bSEMICOLON bSOLIDUS bSPACE bTILDE bVERTICAL LINE aTAGALOG LETTER A cARCHAIC RA cBA cDA cGA
    cHA cI cKA cLA cMA cNA cNGA cPA cRA cSA cTA cU cWA cYA bSIGN PAMUDPOD cVIRAMA bVOWEL SIGN I
    dU aTAGBANWA LETTER A cBA cDA cGA cI cKA cLA cMA cNA cNGA cPA cSA cTA cU cWA cYA bVOWEL SIGN
    I dU aTAI LE LETTER A dAI dAUE dE dEE dEH dFA dHA dI dKA dKHA dLA dMA dNA dNGA dO dOO dPA
    dPHA dQA dSA dTA dTHA dTONE-2 dTONE-3 dTONE-4 dTONE-5 dTONE-6 dTSA dTSHA dU dUE dVA dXA dYA
    bTHAM COMBINING CRYPTOGRAMMIC DOT cCONSONANT SIGN BA eFINAL NGA eHIGH RATHA OR LOW PA eLA
    TANG LAI eLOW PA eMA eMEDIAL LA fRA eSA cHORA DIGIT EIGHT eFIVE eFOUR eNINE eONE eSEVEN eSIX
    eTHREE eTWO eZERO cLETTER A dBA dDA dEE dGREAT SA dHIGH CA eCHA eFA eHA eKA eKHA eKXA ePA
    ePHA eRATHA eSA eSHA eSSA eTA eTHA eYA dI dII dLA dLAE dLLA dLOW CA eCHA eFA eHA eKA eKHA
    eKXA ePA ePHA eRATHA eSA eTA eTHA eYA dLUE dMA dNA dNGA dNYA dOO dRA dRANA dRATA dRUE dU dUU
    dWA cSIGN CAANG dDOKMAI dHANG dHOY dKAAN dKAANKUU dKEOW dKHUEN TONE-3 eTONE-4 eTONE-5
    dKHUEN-LUE KARAN dMAI KANG fLAI eSAM eYAMOK dRA HAAM dREVERSED ROTATED RANA dSAKOT dSATKAAN
    dSATKAANKUU dSAWAN dTONE-1 dTONE-2 dWIANG dWIANGWAAK cTHAM DIGIT EIGHT eFIVE eFOUR eNINE
    eONE eSEVEN eSIX eTHREE eTWO eZERO cVOWEL SIGN A eAA eAE eAI eE eI eII eMAI SAT eO eOA ABOVE
    fBELOW eOO eOY eTALL AA eTHAM AI eU eUE eUU eUUE bVIET LETTER HIGH BO eCHO eCO eDO eFO eGO
    eHO eKHHO eKHO eKO eLO eMO eNGO eNO eNYO eO ePHO ePO eRO eSO eTHO eTO eVO eYO dLOW BO eCHO
    eCO eDO eFO eGO eHO eKHHO eKHO eKO eLO eMO eNGO eNO eNYO eO ePHO ePO eRO eSO eTHO eTO eVO
    eYO cMAI KANG dKHIT cSYMBOL HO HOI dKOI KOI dKON dNUENG dSAM cTONE MAI EK eNUENG eSONG eTHO
    cVOWEL AA dAM dAN dAUE dAY dE dI dIA dO dU dUA dUE dUEA aTAKEOUT BOX aTAKRI ABBREVIATION
    SIGN bDIGIT EIGHT cFIVE cFOUR cNINE cONE cSEVEN cSIX cTHREE cTWO cZERO bLETTER A cAA cAI
    cARCHAIC KHA cAU cBA cBHA cCA cCHA cDA cDDA cDDHA cDHA cE cGA cGHA cHA cI cII cJA cJHA cKA
    cKHA cLA cMA cNA cNGA cNNA cNYA cO cPA cPHA cRA cRRA cSA cSHA cTA cTHA cTTA cTTHA cU cUU cVA
    cYA bSIGN ANUSVARA cNUKTA cVIRAMA cVISARGA bVOWEL SIGN AA dAI dAU dE dI dII dO dU dUU aTALLY
    MARK FIVE cONE aTAMALE aTAMIL AND ODD SIGN bAS ABOVE SIGN bAU LENGTH MARK bCREDIT SIGN
    bCURRENT SIGN bDAY SIGN bDEBIT SIGN bDIGIT EIGHT cFIVE cFOUR cNINE cONE cSEVEN cSIX cTHREE
    cTWO cZERO bDRY CULTIVATION SIGN bFRACTION DOWNSCALING FACTOR KIIZH cONE EIGHTH dEIGHTIETH
    dFIFTH dFORTIETH dHALF-1 dHALF-2 dONE-HUNDRED-AND-SIXTIETH dQUARTER dSIXTEENTH-1
    dSIXTEENTH-2 dSIXTY-FOURTH dTENTH dTHIRTY-SECOND dTHREE-HUNDRED-AND-TWENTIETH dTWENTIETH
    cTHREE EIGHTIETHS dQUARTERS dSIXTEENTHS dSIXTY-FOURTHS dTWENTIETHS bIN POSSESSION SIGN bLAND
    SIGN bLETTER A cAA cAI cAU cCA cE cEE cHA cI cII cJA cKA cLA cLLA cLLLA cMA cNA cNGA cNNA
    cNNNA cNYA cO cOO cPA cRA cRRA cSA cSHA cSSA cTA cTTA cU cUU cVA cYA bMONTH SIGN bNUMBER ONE
    HUNDRED dTHOUSAND cSIGN cTEN bOM bPUNCTUATION END OF TEXT bRUPEE SIGN bSALT PAN SIGN bSIGN
    AAZHAAKKU cANUSVARA cCEVITU cKAACU cKURUNI cKUZHI cMUKKURUNI cMUTHALIYA cMUUVUZHAKKU cNEL
    cPAARAM cPANAM cPATHAKKU cPON cUZHAKKU cVAKAIYARAA cVARAAKAN cVELI cVIRAMA cVISARGA bSPENT
    SIGN bSTARTING FROM SIGN bTOTAL SIGN bTRADITIONAL CREDIT SIGN cNUMBER SIGN bVOWEL SIGN AA
    dAI dAU dE dEE dI dII dO dOO dU dUU bWET CULTIVATION SIGN bYEAR SIGN aTANABATA TREE
    aTANGERINE aTANGSA DIGIT EIGHT cFIVE cFOUR cNINE cONE cSEVEN cSIX cTHREE cTWO cZERO bLETTER
    AC cAQ cAWC cAWQ cAWX cAWZ cAX cAZ cBA cCA cCHA cDA cDHA cEC cEQ cEX cEZ cFA cFINAL NG cGA
    cGHA cHA cHTA cHTTA cIC cIQ cIX cIZ cKA cKHA cLA cLONG UEX cMA cMC cMQ cMX cMZ cNA cNGA cNHA
    cNYA cOC cOQ cOX cOZ cPA cPHA cRA cSA cSHA cSHORT AWX dUEZ cTA cTHA cTSA cUC cUEC cUEQ cUEX
    cUEZ cUIC cUIQ cUIUC cUIUQ cUIUX cUIUZ cUIX cUIZ cUQ cUX cUZ cVC cVQ cVX cVZ cWA cXA cYA cZA
    aTANGUT COMPONENT-001 bCOMPONENT-002 bCOMPONENT-003 bCOMPONENT-004 bCOMPONENT-005
    bCOMPONENT-006 bCOMPONENT-007 bCOMPONENT-008 bCOMPONENT-009 bCOMPONENT-010 bCOMPONENT-011
    bCOMPONENT-012 bCOMPONENT-013 bCOMPONENT-014 bCOMPONENT-015 bCOMPONENT-016 bCOMPONENT-017
    bCOMPONENT-018 bCOMPONENT-019 bCOMPONENT-020 bCOMPONENT-021 bCOMPONENT-022 bCOMPONENT-023
    bCOMPONENT-024 bCOMPONENT-025 bCOMPONENT-026 bCOMPONENT-027 bCOMPONENT-028 bCOMPONENT-029
    bCOMPONENT-030 bCOMPONENT-031 bCOMPONENT-032 bCOMPONENT-033 bCOMPONENT-034 bCOMPONENT-035
    bCOMPONENT-036 bCOMPONENT-037 bCOMPONENT-038 bCOMPONENT-039 bCOMPONENT-040 bCOMPONENT-041
    bCOMPONENT-042 bCOMPONENT-043 bCOMPONENT-044 bCOMPONENT-045 bCOMPONENT-046 bCOMPONENT-047
    bCOMPONENT-048 bCOMPONENT-049 bCOMPONENT-050 bCOMPONENT-051 bCOMPONENT-052 bCOMPONENT-053
    bCOMPONENT-054 bCOMPONENT-055 bCOMPONENT-056 bCOMPONENT-057 bCOMPONENT-058 bCOMPONENT-059
    bCOMPONENT-060 bCOMPONENT-061 bCOMPONENT-062 bCOMPONENT-063 bCOMPONENT-064 bCOMPONENT-065
    bCOMPONENT-066 bCOMPONENT-067 bCOMPONENT-068 bCOMPONENT-069 bCOMPONENT-070 bCOMPONENT-071
    bCOMPONENT-072 bCOMPONENT-073 bCOMPONENT-074 bCOMPONENT-075 bCOMPONENT-076 bCOMPONENT-077
    bCOMPONENT-078 bCOMPONENT-079 bCOMPONENT-080 bCOMPONENT-081 bCOMPONENT-082 bCOMPONENT-083
    bCOMPONENT-084 bCOMPONENT-085 bCOMPONENT-086 bCOMPONENT-087 bCOMPONENT-088 bCOMPONENT-089
    bCOMPONENT-090 bCOMPONENT-091 bCOMPONENT-092 bCOMPONENT-093 bCOMPONENT-094 bCOMPONENT-095
    bCOMPONENT-096 bCOMPONENT-097 bCOMPONENT-098 bCOMPONENT-099 bCOMPONENT-100 bCOMPONENT-101
    bCOMPONENT-102 bCOMPONENT-103 bCOMPONENT-104 bCOMPONENT-105 bCOMPONENT-106 bCOMPONENT-107
    bCOMPONENT-108 bCOMPONENT-109 bCOMPONENT-110 bCOMPONENT-111 bCOMPONENT-112 bCOMPONENT-113
    bCOMPONENT-114 bCOMPONENT-115 bCOMPONENT-116 bCOMPONENT-117 bCOMPONENT-118 bCOMPONENT-119
    bCOMPONENT-120 bCOMPONENT-121 bCOMPONENT-122 bCOMPONENT-123 bCOMPONENT-124 bCOMPONENT-125
    bCOMPONENT-126 bCOMPONENT-127 bCOMPONENT-128 bCOMPONENT-129 bCOMPONENT-130 bCOMPONENT-131
    bCOMPONENT-132 bCOMPONENT-133 bCOMPONENT-134 bCOMPONENT-135 bCOMPONENT-136 bCOMPONENT-137
    bCOMPONENT-138 bCOMPONENT-139 bCOMPONENT-140 bCOMPONENT-141 bCOMPONENT-142 bCOMPONENT-143
    bCOMPONENT-144 bCOMPONENT-145 bCOMPONENT-146 bCOMPONENT-147 bCOMPONENT-148 bCOMPONENT-149
    bCOMPONENT-150 bCOMPONENT-151 bCOMPONENT-152 bCOMPONENT-153 bCOMPONENT-154 bCOMPONENT-155
    bCOMPONENT-156 bCOMPONENT-157 bCOMPONENT-158 bCOMPONENT-159 bCOMPONENT-160 bCOMPONENT-161
    bCOMPONENT-162 bCOMPONENT-163 bCOMPONENT-164 bCOMPONENT-165 bCOMPONENT-166 bCOMPONENT-167
    bCOMPONENT-168 bCOMPONENT-169 bCOMPONENT-170 bCOMPONENT-171 bCOMPONENT-172 bCOMPONENT-173
    bCOMPONENT-174 bCOMPONENT-175 bCOMPONENT-176 bCOMPONENT-177 bCOMPONENT-178 bCOMPONENT-179
    bCOMPONENT-180 bCOMPONENT-181 bCOMPONENT-182 bCOMPONENT-183 bCOMPONENT-184 bCOMPONENT-185
    bCOMPONENT-186 bCOMPONENT-187 bCOMPONENT-188 bCOMPONENT-189 bCOMPONENT-190 bCOMPONENT-191
    bCOMPONENT-192 bCOMPONENT-193 bCOMPONENT-194 bCOMPONENT-195 bCOMPONENT-196 bCOMPONENT-197
    bCOMPONENT-198 bCOMPONENT-199 bCOMPONENT-200 bCOMPONENT-201 bCOMPONENT-202 bCOMPONENT-203
    bCOMPONENT-204 bCOMPONENT-205 bCOMPONENT-206 bCOMPONENT-207 bCOMPONENT-208 bCOMPONENT-209
    bCOMPONENT-210 bCOMPONENT-211 bCOMPONENT-212 bCOMPONENT-213 bCOMPONENT-214 bCOMPONENT-215
    bCOMPONENT-216 bCOMPONENT-217 bCOMPONENT-218 bCOMPONENT-219 bCOMPONENT-220 bCOMPONENT-221
    bCOMPONENT-222 bCOMPONENT-223 bCOMPONENT-224 bCOMPONENT-225 bCOMPONENT-226 bCOMPONENT-227
    bCOMPONENT-228 bCOMPONENT-229 bCOMPONENT-230 bCOMPONENT-231 bCOMPONENT-232 bCOMPONENT-233
    bCOMPONENT-234 bCOMPONENT-235 bCOMPONENT-236 bCOMPONENT-237 bCOMPONENT-238 bCOMPONENT-239
    bCOMPONENT-240 bCOMPONENT-241 bCOMPONENT-242 bCOMPONENT-243 bCOMPONENT-244 bCOMPONENT-245
    bCOMPONENT-246 bCOMPONENT-247 bCOMPONENT-248 bCOMPONENT-249 bCOMPONENT-250 bCOMPONENT-251
    bCOMPONENT-252 bCOMPONENT-253 bCOMPONENT-254 bCOMPONENT-255 bCOMPONENT-256 bCOMPONENT-257
    bCOMPONENT-258 bCOMPONENT-259 bCOMPONENT-260 bCOMPONENT-261 bCOMPONENT-262 bCOMPONENT-263
    bCOMPONENT-264 bCOMPONENT-265 bCOMPONENT-266 bCOMPONENT-267 bCOMPONENT-268 bCOMPONENT-269
    bCOMPONENT-270 bCOMPONENT-271 bCOMPONENT-272 bCOMPONENT-273 bCOMPONENT-274 bCOMPONENT-275
    bCOMPONENT-276 bCOMPONENT-277 bCOMPONENT-278 bCOMPONENT-279 bCOMPONENT-280 bCOMPONENT-281
    bCOMPONENT-282 bCOMPONENT-283 bCOMPONENT-284 bCOMPONENT-285 bCOMPONENT-286 bCOMPONENT-287
    bCOMPONENT-288 bCOMPONENT-289 bCOMPONENT-290 bCOMPONENT-291 bCOMPONENT-292 bCOMPONENT-293
    bCOMPONENT-294 bCOMPONENT-295 bCOMPONENT-296 bCOMPONENT-297 bCOMPONENT-298 bCOMPONENT-299
    bCOMPONENT-300 bCOMPONENT-301 bCOMPONENT-302 bCOMPONENT-303 bCOMPONENT-304 bCOMPONENT-305
    bCOMPONENT-306 bCOMPONENT-307 bCOMPONENT-308 bCOMPONENT-309 bCOMPONENT-310 bCOMPONENT-311
    bCOMPONENT-312 bCOMPONENT-313 bCOMPONENT-314 bCOMPONENT-315 bCOMPONENT-316 bCOMPONENT-317
    bCOMPONENT-318 bCOMPONENT-319 bCOMPONENT-320 bCOMPONENT-321 bCOMPONENT-322 bCOMPONENT-323
    bCOMPONENT-324 bCOMPONENT-325 bCOMPONENT-326 bCOMPONENT-327 bCOMPONENT-328 bCOMPONENT-329
    bCOMPONENT-330 bCOMPONENT-331 bCOMPONENT-332 bCOMPONENT-333 bCOMPONENT-334 bCOMPONENT-335
    bCOMPONENT-336 bCOMPONENT-337 bCOMPONENT-338 bCOMPONENT-339 bCOMPONENT-340 bCOMPONENT-341
    bCOMPONENT-342 bCOMPONENT-343 bCOMPONENT-344 bCOMPONENT-345 bCOMPONENT-346 bCOMPONENT-347
    bCOMPONENT-348 bCOMPONENT-349 bCOMPONENT-350 bCOMPONENT-351 bCOMPONENT-352 bCOMPONENT-353
    bCOMPONENT-354 bCOMPONENT-355 bCOMPONENT-356 bCOMPONENT-357 bCOMPONENT-358 bCOMPONENT-359
    bCOMPONENT-360 bCOMPONENT-361 bCOMPONENT-362 bCOMPONENT-363 bCOMPONENT-364 bCOMPONENT-365
    bCOMPONENT-366 bCOMPONENT-367 bCOMPONENT-368 bCOMPONENT-369 bCOMPONENT-370 bCOMPONENT-371
    bCOMPONENT-372 bCOMPONENT-373 bCOMPONENT-374 bCOMPONENT-375 bCOMPONENT-376 bCOMPONENT-377
    bCOMPONENT-378 bCOMPONENT-379 bCOMPONENT-380 bCOMPONENT-381 bCOMPONENT-382 bCOMPONENT-383
    bCOMPONENT-384 bCOMPONENT-385 bCOMPONENT-386 bCOMPONENT-387 bCOMPONENT-388 bCOMPONENT-389
    bCOMPONENT-390 bCOMPONENT-391 bCOMPONENT-392 bCOMPONENT-393 bCOMPONENT-394 bCOMPONENT-395
    bCOMPONENT-396 bCOMPONENT-397 bCOMPONENT-398 bCOMPONENT-399 bCOMPONENT-400 bCOMPONENT-401
    bCOMPONENT-402 bCOMPONENT-403 bCOMPONENT-404 bCOMPONENT-405 bCOMPONENT-406 bCOMPONENT-407
    bCOMPONENT-408 bCOMPONENT-409 bCOMPONENT-410 bCOMPONENT-411 bCOMPONENT-412 bCOMPONENT-413
    bCOMPONENT-414 bCOMPONENT-415 bCOMPONENT-416 bCOMPONENT-417 bCOMPONENT-418 bCOMPONENT-419
    bCOMPONENT-420 bCOMPONENT-421 bCOMPONENT-422 bCOMPONENT-423 bCOMPONENT-424 bCOMPONENT-425
    bCOMPONENT-426 bCOMPONENT-427 bCOMPONENT-428 bCOMPONENT-429 bCOMPONENT-430 bCOMPONENT-431
    bCOMPONENT-432 bCOMPONENT-433 bCOMPONENT-434 bCOMPONENT-435 bCOMPONENT-436 bCOMPONENT-437
    bCOMPONENT-438 bCOMPONENT-439 bCOMPONENT-440 bCOMPONENT-441 bCOMPONENT-442 bCOMPONENT-443
    bCOMPONENT-444 bCOMPONENT-445 bCOMPONENT-446 bCOMPONENT-447 bCOMPONENT-448 bCOMPONENT-449
    bCOMPONENT-450 bCOMPONENT-451 bCOMPONENT-452 bCOMPONENT-453 bCOMPONENT-454 bCOMPONENT-455
    bCOMPONENT-456 bCOMPONENT-457 bCOMPONENT-458 bCOMPONENT-459 bCOMPONENT-460 bCOMPONENT-461
    bCOMPONENT-462 bCOMPONENT-463 bCOMPONENT-464 bCOMPONENT-465 bCOMPONENT-466 bCOMPONENT-467
    bCOMPONENT-468 bCOMPONENT-469 bCOMPONENT-470 bCOMPONENT-471 bCOMPONENT-472 bCOMPONENT-473
    bCOMPONENT-474 bCOMPONENT-475 bCOMPONENT-476 bCOMPONENT-477 bCOMPONENT-478 bCOMPONENT-479
    bCOMPONENT-480 bCOMPONENT-481 bCOMPONENT-482 bCOMPONENT-483 bCOMPONENT-484 bCOMPONENT-485
    bCOMPONENT-486 bCOMPONENT-487 bCOMPONENT-488 bCOMPONENT-489 bCOMPONENT-490 bCOMPONENT-491
    bCOMPONENT-492 bCOMPONENT-493 bCOMPONENT-494 bCOMPONENT-495 bCOMPONENT-496 bCOMPONENT-497
    bCOMPONENT-498 bCOMPONENT-499 bCOMPONENT-500 bCOMPONENT-501 bCOMPONENT-502 bCOMPONENT-503
    bCOMPONENT-504 bCOMPONENT-505 bCOMPONENT-506 bCOMPONENT-507 bCOMPONENT-508 bCOMPONENT-509
    bCOMPONENT-510 bCOMPONENT-511 bCOMPONENT-512 bCOMPONENT-513 bCOMPONENT-514 bCOMPONENT-515
    bCOMPONENT-516 bCOMPONENT-517 bCOMPONENT-518 bCOMPONENT-519 bCOMPONENT-520 bCOMPONENT-521
    bCOMPONENT-522 bCOMPONENT-523 bCOMPONENT-524 bCOMPONENT-525 bCOMPONENT-526 bCOMPONENT-527
    bCOMPONENT-528 bCOMPONENT-529 bCOMPONENT-530 bCOMPONENT-531 bCOMPONENT-532 bCOMPONENT-533
    bCOMPONENT-534 bCOMPONENT-535 bCOMPONENT-536 bCOMPONENT-537 bCOMPONENT-538 bCOMPONENT-539
    bCOMPONENT-540 bCOMPONENT-541 bCOMPONENT-542 bCOMPONENT-543 bCOMPONENT-544 bCOMPONENT-545
    bCOMPONENT-546 bCOMPONENT-547 bCOMPONENT-548 bCOMPONENT-549 bCOMPONENT-550 bCOMPONENT-551
    bCOMPONENT-552 bCOMPONENT-553 bCOMPONENT-554 bCOMPONENT-555 bCOMPONENT-556 bCOMPONENT-557
    bCOMPONENT-558 bCOMPONENT-559 bCOMPONENT-560 bCOMPONENT-561 bCOMPONENT-562 bCOMPONENT-563
    bCOMPONENT-564 bCOMPONENT-565 bCOMPONENT-566 bCOMPONENT-567 bCOMPONENT-568 bCOMPONENT-569
    bCOMPONENT-570 bCOMPONENT-571 bCOMPONENT-572 bCOMPONENT-573 bCOMPONENT-574 bCOMPONENT-575
    bCOMPONENT-576 bCOMPONENT-577 bCOMPONENT-578 bCOMPONENT-579 bCOMPONENT-580 bCOMPONENT-581
    bCOMPONENT-582 bCOMPONENT-583 bCOMPONENT-584 bCOMPONENT-585 bCOMPONENT-586 bCOMPONENT-587
    bCOMPONENT-588 bCOMPONENT-589 bCOMPONENT-590 bCOMPONENT-591 bCOMPONENT-592 bCOMPONENT-593
    bCOMPONENT-594 bCOMPONENT-595 bCOMPONENT-596 bCOMPONENT-597 bCOMPONENT-598 bCOMPONENT-599
    bCOMPONENT-600 bCOMPONENT-601 bCOMPONENT-602 bCOMPONENT-603 bCOMPONENT-604 bCOMPONENT-605
    bCOMPONENT-606 bCOMPONENT-607 bCOMPONENT-608 bCOMPONENT-609 bCOMPONENT-610 bCOMPONENT-611
    bCOMPONENT-612 bCOMPONENT-613 bCOMPONENT-614 bCOMPONENT-615 bCOMPONENT-616 bCOMPONENT-617
    bCOMPONENT-618 bCOMPONENT-619 bCOMPONENT-620 bCOMPONENT-621 bCOMPONENT-622 bCOMPONENT-623
    bCOMPONENT-624 bCOMPONENT-625 bCOMPONENT-626 bCOMPONENT-627 bCOMPONENT-628 bCOMPONENT-629
    bCOMPONENT-630 bCOMPONENT-631 bCOMPONENT-632 bCOMPONENT-633 bCOMPONENT-634 bCOMPONENT-635
    bCOMPONENT-636 bCOMPONENT-637 bCOMPONENT-638 bCOMPONENT-639 bCOMPONENT-640 bCOMPONENT-641
    bCOMPONENT-642 bCOMPONENT-643 bCOMPONENT-644 bCOMPONENT-645 bCOMPONENT-646 bCOMPONENT-647
    bCOMPONENT-648 bCOMPONENT-649 bCOMPONENT-650 bCOMPONENT-651 bCOMPONENT-652 bCOMPONENT-653
    bCOMPONENT-654 bCOMPONENT-655 bCOMPONENT-656 bCOMPONENT-657 bCOMPONENT-658 bCOMPONENT-659
    bCOMPONENT-660 bCOMPONENT-661 bCOMPONENT-662 bCOMPONENT-663 bCOMPONENT-664 bCOMPONENT-665
    bCOMPONENT-666 bCOMPONENT-667 bCOMPONENT-668 bCOMPONENT-669 bCOMPONENT-670 bCOMPONENT-671
    bCOMPONENT-672 bCOMPONENT-673 bCOMPONENT-674 bCOMPONENT-675 bCOMPONENT-676 bCOMPONENT-677
    bCOMPONENT-678 bCOMPONENT-679 bCOMPONENT-680 bCOMPONENT-681 bCOMPONENT-682 bCOMPONENT-683
    bCOMPONENT-684 bCOMPONENT-685 bCOMPONENT-686 bCOMPONENT-687 bCOMPONENT-688 bCOMPONENT-689
    bCOMPONENT-690 bCOMPONENT-691 bCOMPONENT-692 bCOMPONENT-693 bCOMPONENT-694 bCOMPONENT-695
    bCOMPONENT-696 bCOMPONENT-697 bCOMPONENT-698 bCOMPONENT-699 bCOMPONENT-700 bCOMPONENT-701
    bCOMPONENT-702 bCOMPONENT-703 bCOMPONENT-704 bCOMPONENT-705 bCOMPONENT-706 bCOMPONENT-707
    bCOMPONENT-708 bCOMPONENT-709 bCOMPONENT-710 bCOMPONENT-711 bCOMPONENT-712 bCOMPONENT-713
    bCOMPONENT-714 bCOMPONENT-715 bCOMPONENT-716 bCOMPONENT-717 bCOMPONENT-718 bCOMPONENT-719
    bCOMPONENT-720 bCOMPONENT-721 bCOMPONENT-722 bCOMPONENT-723 bCOMPONENT-724 bCOMPONENT-725
    bCOMPONENT-726 bCOMPONENT-727 bCOMPONENT-728 bCOMPONENT-729 bCOMPONENT-730 bCOMPONENT-731
    bCOMPONENT-732 bCOMPONENT-733 bCOMPONENT-734 bCOMPONENT-735 bCOMPONENT-736 bCOMPONENT-737
    bCOMPONENT-738 bCOMPONENT-739 bCOMPONENT-740 bCOMPONENT-741 bCOMPONENT-742 bCOMPONENT-743
    bCOMPONENT-744 bCOMPONENT-745 bCOMPONENT-746 bCOMPONENT-747 bCOMPONENT-748 bCOMPONENT-749
    bCOMPONENT-750 bCOMPONENT-751 bCOMPONENT-752 bCOMPONENT-753 bCOMPONENT-754 bCOMPONENT-755
    bCOMPONENT-756 bCOMPONENT-757 bCOMPONENT-758 bCOMPONENT-759 bCOMPONENT-760 bCOMPONENT-761
    bCOMPONENT-762 bCOMPONENT-763 bCOMPONENT-764 bCOMPONENT-765 bCOMPONENT-766 bCOMPONENT-767
    bCOMPONENT-768 bITERATION MARK aTAPE CARTRIDGE bDRIVE aTAURUS aTAXI aTEACUP WITHOUT HANDLE
    aTEAPOT aTEAR-OFF CALENDAR aTEARDROP-BARBED RIGHTWARDS ARROW aTEARDROP-SPOKED ASTERISK
    aTEDDY BEAR aTELEPHONE LOCATION SIGN bON TOP OF MODEM bRECEIVER cWITH PAGE bRECORDER bSIGN
    aTELESCOPE aTELEVISION aTELUGU AI LENGTH MARK bDIGIT EIGHT cFIVE cFOUR cNINE cONE cSEVEN
    cSIX cTHREE cTWO cZERO bFRACTION DIGIT ONE FOR EVEN POWERS OF FOUR fODD POWERS OF FOUR
    dTHREE FOR EVEN POWERS OF FOUR fODD POWERS OF FOUR dTWO FOR EVEN POWERS OF FOUR fODD POWERS
    OF FOUR dZERO FOR ODD POWERS OF FOUR bLENGTH MARK bLETTER A cAA cAI cAU cBA cBHA cCA cCHA
    cDA cDDA cDDHA cDHA cDZA cE cEE cGA cGHA cHA cI cII cJA cJHA cKA cKHA cLA cLLA cLLLA cMA cNA
    cNAKAARA POLLU cNGA cNNA cNYA cO cOO cPA cPHA cRA cRRA cRRRA cSA cSHA cSSA cTA cTHA cTSA
    cTTA cTTHA cU cUU cVA cVOCALIC L dLL dR dRR cYA bSIGN ANUSVARA cAVAGRAHA cCANDRABINDU
    cCOMBINING ANUSVARA ABOVE dCANDRABINDU ABOVE cNUKTA cSIDDHAM cTUUMU cVIRAMA cVISARGA bVOWEL
    SIGN AA dAI dAU dE dEE dI dII dO dOO dU dUU dVOCALIC L eLL eR eRR aTENGE SIGN aTENNIS
    RACQUET AND BALL aTENT aTEST TUBE aTETRAGRAM FOR ACCUMULATION cADVANCE cAGGRAVATION cASCENT
    cBARRIER cBOLD RESOLUTION cBRANCHING OUT cCENTRE cCHANGE cCLOSED MOUTH cCLOSENESS cCLOSURE
    cCOMPLETION cCOMPLIANCE cCONSTANCY cCONTACT cCONTENTION cCONTRARIETY cDARKENING
    cDECISIVENESS cDEFECTIVENESS OR DISTORTION cDEPARTURE cDIFFICULTIES cDIMINISHMENT cDIMMING
    cDIVERGENCE cDOUBT cDUTIES cEASE cEMBELLISHMENT cENCOUNTERS cENDEAVOUR cENLARGEMENT
    cETERNITY cEXHAUSTION cFAILURE cFLIGHT cFOLLOWING cFOSTERING cFULL CIRCLE cFULLNESS
    cGATHERING dIN cGOING TO MEET cGREATNESS cGUARDEDNESS cHARDNESS cHOLDING BACK cINCREASE
    cINNER cJOY cKEEPING SMALL cKINSHIP cLABOURING cLAW OR MODEL cLEGION cMASSING cMEASURE
    cMIRED cON THE VERGE cOPPOSITION cPACKING cPATTERN cPENETRATION cPURITY cREACH cRELEASE
    cRESIDENCE cRESISTANCE cRESPONSE cRITUAL cSEVERANCE cSINKING cSTOPPAGE cSTOVE cSTRENGTH
    cUNITY cVASTNESS OR WASTING cWAITING cWATCH cYOUTHFULNESS aTHAANA AABAAFILI bABAFILI
    bEBEFILI bEEBEEFILI bEYBEYFILI bIBIFILI bLETTER AINU cALIFU cBAA cCHAVIYANI cDAADHU
    cDAVIYANI cDHAALU cFAAFU cGAAFU cGHAINU cGNAVIYANI cHAA cHHAA cJAVIYANI cKAAFU cKHAA cLAAMU
    cLHAVIYANI cMEEMU cNAA cNOONU cPAVIYANI cQAAFU cRAA cSAADHU cSEENU cSHAVIYANI cSHEENU
    cTAVIYANI cTHAA cTHAALU cTO cTTAA cVAAVU cWAAVU cYAA cZAA cZAVIYANI cZO bOABOAFILI bOBOFILI
    bOOBOOFILI bSUKUN bUBUFILI aTHAI CHARACTER ANGKHANKHU cBO BAIMAI cCHO CHAN dCHANG dCHING
    dCHOE cDO CHADA dDEK cFO FA dFAN cFONGMAN cHO HIP dNOKHUK cKHO KHAI dKHON dKHUAT dKHWAI
    dRAKHANG cKHOMUT cKO KAI cLAKKHANGYAO cLO CHULA dLING cLU cMAI CHATTAWA dEK dHAN-AKAT dTHO
    dTRI cMAITAIKHU cMAIYAMOK cMO MA cNGO NGU cNIKHAHIT cNO NEN dNU cO ANG cPAIYANNOI cPHINTHU
    cPHO PHAN dPHUNG dSAMPHAO cPO PLA cRO RUA cRU cSARA A dAA dAE dAI MAIMALAI eMAIMUAN dAM dE
    dI dII dO dU dUE dUEE dUU cSO RUSI dSALA dSO dSUA cTHANTHAKHAT cTHO NANGMONTHO dPHUTHAO
    dTHAHAN dTHAN dTHONG dTHUNG cTO PATAK dTAO cWO WAEN cYAMAKKAN cYO YAK dYING bCURRENCY SYMBOL
    BAHT bDIGIT EIGHT cFIVE cFOUR cNINE cONE cSEVEN cSIX cTHREE cTWO cZERO aTHERE DOES NOT EXIST
    bEXISTS aTHEREFORE aTHERMODYNAMIC aTHERMOMETER aTHIN GREEK CROSS bSALTIRE bSPACE aTHINKING
    FACE aTHIRD PLACE MEDAL aTHONG SANDAL aTHOUGHT BALLOON aTHREE BUTTON MOUSE bCONSECUTIVE
    EQUALS SIGNS bDIMENSIONAL ANGLE bDOT PUNCTUATION bLEFTWARDS ARROWS bLINES CONVERGING LEFT
    dRIGHT bNETWORKED COMPUTERS bPOINTED BLACK STAR bRAYS ABOVE cBELOW cLEFT cRIGHT bRIGHTWARDS
    ARROWS bSPEECH BUBBLES aTHREE-D BOTTOM-LIGHTED RIGHTWARDS ARROWHEAD bLEFT-LIGHTED DOWNWARDS
    EQUILATERAL ARROWHEAD bRIGHT-LIGHTED UPWARDS EQUILATERAL ARROWHEAD bTOP-LIGHTED LEFTWARDS
    EQUILATERAL ARROWHEAD cRIGHTWARDS ARROWHEAD dEQUILATERAL ARROWHEAD aTHREE-EM DASH
    aTHREE-PER-EM SPACE aTHUMBS DOWN SIGN bUP SIGN aTHUNDER CLOUD AND RAIN aTHUNDERSTORM
    aTIBETAN ASTROLOGICAL SIGN -KHYUD PA dSDONG TSHUGS dSGRA GCAN -CHAR RTAGS bCANTILLATION SIGN
    CANG TE-U dHEAVY BEAT dLIGHT BEAT dSBUB -CHAL bDIGIT EIGHT cFIVE cFOUR cHALF EIGHT dFIVE
    dFOUR dNINE dONE dSEVEN dSIX dTHREE dTWO dZERO cNINE cONE cSEVEN cSIX cTHREE cTWO cZERO bKU
    RU KHA eBZHI MIG CAN bLETTER -A cA cBA cBHA cCA cCHA cDA cDDA cDDHA cDHA cDZA cDZHA
    cFIXED-FORM RA cGA cGHA cHA cJA cKA cKHA cKKA cKSSA cLA cMA cNA cNGA cNNA cNYA cPA cPHA cRA
    cRRA cSA cSHA cSSA cTA cTHA cTSA cTSHA cTTA cTTHA cWA cYA cZA cZHA bLOGOTYPE SIGN CHAD RTAGS
    dLHAG RTAGS bMARK ANG KHANG GYAS eGYON cBKA- SHOG GI MGO RGYAN eYIG MGO cBSDUS RTAGS cBSKA-
    SHOG GI MGO RGYAN cBSKUR YIG MGO cCARET -DZUD RTAGS BZHI MIG CAN fME LONG CAN dYIG MGO PHUR
    SHAD MA cCHE MGO cCLOSING BRDA RNYING YIG MGO SGAB MA dYIG MGO SGAB MA cDELIMITER TSHEG
    BSTAR cGTER TSHEG dYIG MGO -UM GTER TSHEG MA gRNAM BCAD MA fTRUNCATED A cGUG RTAGS GYAS
    eGYON cHALANTA cINITIAL BRDA RNYING YIG MGO MDUN MA dYIG MGO MDUN MA cINTERSYLLABIC TSHEG
    cLEADING MCHAN RTAGS cMNYAM YIG GI MGO RGYAN cNGAS BZUNG NYI ZLA eSGOR RTAGS cNYIS SHAD
    dTSHEG eSHAD cPALUTA cRGYA GRAM SHAD cRIN CHEN SPUNGS SHAD cSBRUL SHAD cSHAD cTRAILING MCHAN
    RTAGS cTSA -PHRU cTSHEG SHAD cYIG MGO TSHEG SHAD MA bSIGN GRU CAN RGYINGS dMED RGYINGS
    cINVERTED MCHU CAN cLCE TSA CAN cLCI RTAGS cMAR TSHES cMCHU CAN cNYI ZLA NAA DA cRDEL DKAR
    GCIG eGNYIS eGSUM eRDEL NAG dNAG GCIG eGNYIS eGSUM eRDEL DKAR cRJES SU NGA RO cRNAM BCAD
    cSNA LDAN cYANG RTAGS cYAR TSHES bSUBJOINED LETTER -A dA dBA dBHA dCA dCHA dDA dDDA dDDHA
    dDHA dDZA dDZHA dFIXED-FORM RA eWA eYA dGA dGHA dHA dJA dKA dKHA dKSSA dLA dMA dNA dNGA dNNA
    dNYA dPA dPHA dRA dSA dSHA dSSA dTA dTHA dTSA dTSHA dTTA dTTHA dWA dYA dZA dZHA cSIGN
    INVERTED MCHU CAN dLCE TSA CAN dMCHU CAN bSYLLABLE OM bSYMBOL DRIL BU cNOR BU eBZHI -KHYIL
    eGSUM -KHYIL eNYIS -KHYIL cPADMA GDAN cPHUR PA cRDO RJE eRGYA GRAM bVOWEL SIGN AA dE dEE dI
    dII dO dOO dREVERSED I eII dU dUU dVOCALIC L eLL eR eRR aTICKET aTIE OVER INFINITY aTIFINAGH
    CONSONANT JOINER bLETTER AHAGGAR YAZH cAYER YAGH cBERBER ACADEMY YAH eYAJ cTAWELLEMET YAZ
    cTUAREG YAGH dYAGN dYAH dYAK dYAKH dYANG dYAQ dYAZH cYA cYAA cYAB cYABH cYACH cYAD cYADD
    cYADDH cYADH cYAF cYAG cYAGH cYAGHH cYAH cYAHH cYAJ cYAK cYAKH cYAKHH cYAL cYAM cYAN cYAP
    cYAQ cYAR cYARR cYAS cYASH cYASS cYAT cYATH cYATT cYAV cYAW cYAY cYAZ cYAZH cYAZZ cYE cYEY
    cYI cYO cYU bMODIFIER LETTER LABIALIZATION MARK bSEPARATOR MARK aTIGER bFACE aTIGHT
    TRIFOLIATE SNOWFLAKE aTILDE bOPERATOR cABOVE LEFTWARDS ARROW dRIGHTWARDS ARROW cWITH DOT
    ABOVE dRISING DOTS bWITH DOT ABOVE dBELOW cRING ABOVE aTIMER CLOCK aTIMES WITH LEFT HALF
    BLACK cRIGHT HALF BLACK aTINY bTWO DOTS OVER ONE DOT PUNCTUATION aTIRED FACE aTIRHUTA
    ABBREVIATION SIGN bANJI bDIGIT EIGHT cFIVE cFOUR cNINE cONE cSEVEN cSIX cTHREE cTWO cZERO
    bGVANG bLETTER A cAA cAI cAU cBA cBHA cCA cCHA cDA cDDA cDDHA cDHA cE cGA cGHA cHA cI cII
    cJA cJHA cKA cKHA cLA cMA cNA cNGA cNNA cNYA cO cPA cPHA cRA cSA cSHA cSSA cTA cTHA cTTA
    cTTHA cU cUU cVA cVOCALIC L dLL dR dRR cYA bOM bSIGN ANUSVARA cAVAGRAHA cCANDRABINDU cNUKTA
    cVIRAMA cVISARGA bVOWEL SIGN AA dAI dAU dE dI dII dO dSHORT E eO dU dUU dVOCALIC L eLL eR
    eRR aTIRONIAN SIGN CAPITAL ET cET aTOILET aTOKYO TOWER aTOMATO aTONGUE aTOOLBOX aTOOTH
    aTOOTHBRUSH aTOP ARC ANTICLOCKWISE ARROW eWITH PLUS cCLOCKWISE ARROW WITH MINUS bCURLY
    BRACKET bHALF BLACK CIRCLE cINTEGRAL cLEFT PARENTHESIS cRIGHT PARENTHESIS cSECTION SIGN bHAT
    bLEFT CORNER cCROP cHALF BRACKET bPARENTHESIS bRIGHT CORNER cCROP cHALF BRACKET bSQUARE
    BRACKET bTORTOISE SHELL BRACKET bWITH UPWARDS ARROW ABOVE aTORTOISE SHELL BRACKETED CJK
    UNIFIED IDEOGRAPH-4E09 fIDEOGRAPH-4E8C fIDEOGRAPH-52DD fIDEOGRAPH-5B89 fIDEOGRAPH-6253
    fIDEOGRAPH-6557 fIDEOGRAPH-672C fIDEOGRAPH-70B9 fIDEOGRAPH-76D7 dLATIN CAPITAL LETTER S
    aTOTAL RUNOUT aTOTO LETTER A cAE cBA cBREATHY AE dE dEO dI dIU cCHA cDA cE cEO cGA cHA cI
    cIU cJA cKA cLA cMA cNA cNGA cO cPA cRA cSA cTA cU cWA cYA bSIGN RISING TONE aTRACKBALL
    aTRACTOR aTRADE MARK SIGN aTRAIN aTRAM bCAR aTRANSPLUTO aTRANSVERSAL INTERSECTION aTRIANGLE
    WITH DOT ABOVE cROUNDED CORNERS cSERIFS AT BOTTOM cUNDERBAR aTRIANGLE-HEADED RIGHTWARDS
    ARROW aTRIANGULAR BULLET bFLAG ON POST bRULER aTRICOLON aTRIDENT EMBLEM aTRIGRAM FOR EARTH
    cFIRE cHEAVEN cLAKE cMOUNTAIN cTHUNDER cWATER cWIND aTRIPLE COLON OPERATOR bDAGGER
    bHORIZONTAL BAR WITH DOUBLE VERTICAL STROKE eTRIPLE VERTICAL STROKE bINTEGRAL bNESTED
    GREATER-THAN cLESS-THAN bPLUS bPRIME bSOLIDUS BINARY RELATION bTILDE bVERTICAL BAR BINARY
    RELATION dDELIMITER dRIGHT TURNSTILE dWITH HORIZONTAL STROKE aTROLL aTROLLEYBUS aTROPHY
    aTROPICAL DRINK bFISH aTRUE bLIGHT MOON ARTA aTRUMPET aTUGRIK SIGN aTULIP aTUMBLER GLASS
    aTURKEY aTURKISH LIRA SIGN aTURNED AMPERSAND bANGLE bBLACK PENTAGON cSHOGI PIECE bCAPITAL F
    bCOMMA bDAGGER bDIGIT THREE cTWO bGREEK SMALL LETTER IOTA bNORTH EAST POINTING LEAF cWEST
    POINTING LEAF bNOT SIGN bOK HAND SIGN bSANS-SERIF CAPITAL G dL dY bSEMICOLON bSMALL F bSOUTH
    EAST POINTING LEAF cWEST POINTING LEAF bWHITE SHOGI PIECE aTURTLE aTWELVE POINTED BLACK STAR
    aTWISTED RIGHTWARDS ARROWS aTWO ASTERISKS ALIGNED VERTICALLY bBUTTON MOUSE bCONSECUTIVE
    EQUALS SIGNS bDOT LEADER cPUNCTUATION bDOTS OVER ONE DOT PUNCTUATION bHEARTS bINTERSECTING
    LOGICAL AND dOR bJOINED SQUARES bLOGICAL AND OPERATOR cOR OPERATOR bMEN HOLDING HANDS
    bSPEECH BUBBLES bWOMEN HOLDING HANDS aTWO-EM DASH aUGARITIC LETTER AIN cALPA cBETA cDELTA
    cDHAL cGAMLA cGHAIN cHO cHOTA cI cKAF cKHA cLAMDA cMEM cNUN cPU cQOPA cRASHA cSADE cSAMKA
    cSHIN cSSU cTET cTHANNA cTO cU cWO cYOD cZETA cZU bWORD DIVIDER aUMBRELLA bON GROUND bWITH
    RAIN DROPS aUNAMUSED FACE aUNCERTAINTY SIGN aUNDERTIE aUNDO SYMBOL aUNICORN FACE aUNION
    bABOVE BAR ABOVE INTERSECTION cINTERSECTION bBESIDE AND JOINED WITH UNION bWITH LOGICAL OR
    cMINUS SIGN cOVERBAR aUNIT SEPARATOR aUNITED SYMBOL aUNIVERSAL RECYCLING SYMBOL aUNMARRIED
    PARTNERSHIP SYMBOL aUP ARROW THROUGH CIRCLE bARROWHEAD cBETWEEN TWO HORIZONTAL BARS cIN A
    RECTANGLE BOX bBARB LEFT DOWN BARB LEFT HARPOON fRIGHT HARPOON cRIGHT DOWN BARB LEFT HARPOON
    fRIGHT HARPOON bDOWN ARROW dWITH BASE cBLACK ARROW cDOUBLE ARROW cSANS-SERIF ARROW
    cTRIANGLE-HEADED ARROW cWHITE ARROW bFISH TAIL bRIGHT DIAGONAL ELLIPSIS bTACK cWITH CIRCLE
    ABOVE aUP-POINTING AIRPLANE bMILITARY AIRPLANE bRED TRIANGLE bSMALL AIRPLANE cRED TRIANGLE
    bTRIANGLE WITH LEFT HALF BLACK dRIGHT HALF BLACK aUPPER AND LEFT AND LOWER TRIANGULAR THREE
    QUARTERS BLOCK cLOWER ONE EIGHTH BLOCK dTRIANGULAR HALF BLOCK cRIGHT AND LOWER TRIANGULAR
    THREE QUARTERS BLOCK bBLADE SCISSORS bFIVE EIGHTHS BLOCK bHALF BLOCK dAND LOWER HALF INVERSE
    MEDIUM SHADE cCIRCLE cINVERSE MEDIUM SHADE AND LOWER HALF BLOCK dWHITE CIRCLE cMEDIUM SHADE
    bLEFT BLOCK DIAGONAL LOWER CENTRE TO LOWER MIDDLE RIGHT hUPPER MIDDLE RIGHT iRIGHT fLEFT TO
    LOWER MIDDLE RIGHT hUPPER CENTRE iMIDDLE RIGHT fMIDDLE LEFT TO UPPER CENTRE jMIDDLE RIGHT
    jRIGHT eUPPER MIDDLE LEFT TO UPPER CENTRE jRIGHT cCORNER WITH DOT cOR LOWER RIGHT CURLY
    BRACKET SECTION cQUADRANT CIRCULAR ARC cTO LOWER RIGHT FILL cTRIANGLE cTRIANGULAR MEDIUM
    SHADE bONE EIGHTH BLOCK cQUARTER BLOCK bRIGHT BLOCK DIAGONAL LOWER MIDDLE LEFT TO LOWER
    CENTRE jRIGHT eUPPER CENTRE TO LOWER MIDDLE RIGHT iRIGHT hUPPER MIDDLE RIGHT fLEFT TO LOWER
    CENTRE iMIDDLE RIGHT hUPPER MIDDLE RIGHT fMIDDLE LEFT TO LOWER CENTRE jMIDDLE RIGHT jRIGHT
    cDROP-SHADOWED WHITE SQUARE cOR LOWER LEFT CURLY BRACKET SECTION cPENCIL cQUADRANT CIRCULAR
    ARC cSHADOWED WHITE CIRCLE eSQUARE cTO LOWER LEFT FILL cTRIANGLE cTRIANGULAR MEDIUM SHADE
    bSEVEN EIGHTHS BLOCK bTHREE EIGHTHS BLOCK cQUARTERS BLOCK bTRIANGULAR ONE QUARTER BLOCK
    aUPSIDE-DOWN FACE aUPWARDS ANCORA bARROW cAND RIGHT ONE EIGHTH BLOCK cFROM BAR cLEFTWARDS OF
    DOWNWARDS ARROW cTO BAR cWITH DOUBLE STROKE dEQUILATERAL ARROWHEAD dHORIZONTAL STROKE dLARGE
    TRIANGLE ARROWHEAD dMEDIUM TRIANGLE ARROWHEAD dNOTCHED TAIL dSMALL EQUILATERAL ARROWHEAD
    eTRIANGLE ARROWHEAD dTIP LEFTWARDS eRIGHTWARDS bBLACK ARROW cCIRCLED WHITE ARROW bCOMPRESSED
    ARROW bDASHED ARROW bDOUBLE ARROW bFINGER-POST ARROW bHARPOON WITH BARB LEFT BESIDE
    DOWNWARDS HARPOON WITH BARB RIGHT gUPWARDS HARPOON WITH BARB RIGHT fFROM BAR fTO BAR
    eLEFTWARDS eRIGHT FROM BAR fTO BAR eRIGHTWARDS bHEAVY ARROW cCOMPRESSED ARROW bPAIRED ARROWS
    bQUADRUPLE ARROW bROCKET bSANS-SERIF ARROW bSQUARED ARROW bTRIANGLE ARROWHEAD
    bTRIANGLE-HEADED ARROW dLEFTWARDS OF DOWNWARDS TRIANGLE-HEADED ARROW dTO BAR dWITH BOLD
    SHAFT eDOUBLE HORIZONTAL STROKE eHEAVY SHAFT eLONG TIP LEFTWARDS gRIGHTWARDS eMEDIUM SHAFT
    eNARROW SHAFT eVERY HEAVY SHAFT cDASHED ARROW cPAIRED ARROWS bTRIPLE ARROW bTWO HEADED ARROW
    bTWO-HEADED ARROW FROM SMALL CIRCLE dWITH TRIANGLE ARROWHEADS bWHITE ARROW dFROM BAR fWITH
    HORIZONTAL BAR dON PEDESTAL fWITH HORIZONTAL BAR gVERTICAL BAR dWITHIN TRIANGLE ARROWHEAD
    cDOUBLE ARROW eON PEDESTAL aURANUS aUS aVAI COMMA bDIGIT EIGHT cFIVE cFOUR cNINE cONE cSEVEN
    cSIX cTHREE cTWO cZERO bFULL STOP bQUESTION MARK bSYLLABLE A cAN cBA cBE cBEE cBHA cBHE
    cBHEE cBHI cBHO cBHOO cBHU cBI cBO cBOO cBU cCA cCE cCEE cCI cCO cCOO cCU cDA cDE cDEE cDHA
    cDHE cDHEE cDHHA cDHHE cDHHEE cDHHI cDHHO cDHHOO cDHHU cDHI cDHO cDHOO cDHU cDI cDO cDOO cDU
    cE cEE cEEN cEN cFA cFE cFEE cFI cFO cFOO cFU cGA cGBA cGBE cGBEE cGBEN cGBI cGBO cGBON
    cGBOO cGBU cGE cGEE cGEN cGI cGO cGOO cGU cHA cHAN cHE cHEE cHEN cHI cHIN cHO cHON cHOO cHU
    cHUN cI cIN cJA cJE cJEE cJI cJO cJOO cJU cKA cKAN cKE cKEE cKI cKO cKOO cKPA cKPAN cKPE
    cKPEE cKPEN cKPI cKPO cKPOO cKPU cKU cLA cLE cLEE cLENGTHENER cLI cLO cLOO cLU cMA cMBA cMBE
    cMBEE cMBI cMBO cMBOO cMBU cME cMEE cMGBA cMGBE cMGBEE cMGBI cMGBO cMGBOO cMGBU cMI cMO cMOO
    cMU cNA cNDA cNDE cNDEE cNDI cNDO cNDOLE DO dFA dKA dMA dSOO cNDOO cNDU cNE cNEE cNG cNGAN
    cNGEN cNGGA cNGGE cNGGEE cNGGEN cNGGI cNGGO cNGGOO cNGGU cNGON cNI cNJA cNJE cNJEE cNJI cNJO
    cNJOO cNJU cNO cNOO cNU cNYA cNYE cNYEE cNYI cNYO cNYOO cNYU cO cON cOO cOON cPA cPE cPEE
    cPI cPO cPOO cPU cRA cRE cREE cRI cRO cROO cRU cSA cSE cSEE cSHA cSHE cSHEE cSHI cSHO cSHOO
    cSHU cSI cSO cSOO cSU cTA cTE cTEE cTHA cTHE cTHEE cTHI cTHO cTHOO cTHU cTI cTO cTOO cTU cU
    cUN cVA cVE cVEE cVI cVO cVOO cVU cWA cWAN cWE cWEE cWEEN cWEN cWI cWIN cWO cWON cWOO cWOON
    cWU cWUN cYA cYE cYEE cYI cYO cYOO cYU cZA cZE cZEE cZHA cZHE cZHEE cZHI cZHO cZHOO cZHU cZI
    cZO cZOO cZU bSYMBOL BANG cDANG cDO-O cDOONG cFAA cFEENG cJONG cKEENG cKUNG cNII cTAA cTING
    cTONG aVAMPIRE aVARIATION SELECTOR-1 bSELECTOR-10 bSELECTOR-100 bSELECTOR-101 bSELECTOR-102
    bSELECTOR-103 bSELECTOR-104 bSELECTOR-105 bSELECTOR-106 bSELECTOR-107 bSELECTOR-108
    bSELECTOR-109 bSELECTOR-11 bSELECTOR-110 bSELECTOR-111 bSELECTOR-112 bSELECTOR-113
    bSELECTOR-114 bSELECTOR-115 bSELECTOR-116 bSELECTOR-117 bSELECTOR-118 bSELECTOR-119
    bSELECTOR-12 bSELECTOR-120 bSELECTOR-121 bSELECTOR-122 bSELECTOR-123 bSELECTOR-124
    bSELECTOR-125 bSELECTOR-126 bSELECTOR-127 bSELECTOR-128 bSELECTOR-129 bSELECTOR-13
    bSELECTOR-130 bSELECTOR-131 bSELECTOR-132 bSELECTOR-133 bSELECTOR-134 bSELECTOR-135
    bSELECTOR-136 bSELECTOR-137 bSELECTOR-138 bSELECTOR-139 bSELECTOR-14 bSELECTOR-140
    bSELECTOR-141 bSELECTOR-142 bSELECTOR-143 bSELECTOR-144 bSELECTOR-145 bSELECTOR-146
    bSELECTOR-147 bSELECTOR-148 bSELECTOR-149 bSELECTOR-15 bSELECTOR-150 bSELECTOR-151
    bSELECTOR-152 bSELECTOR-153 bSELECTOR-154 bSELECTOR-155 bSELECTOR-156 bSELECTOR-157
    bSELECTOR-158 bSELECTOR-159 bSELECTOR-16 bSELECTOR-160 bSELECTOR-161 bSELECTOR-162
    bSELECTOR-163 bSELECTOR-164 bSELECTOR-165 bSELECTOR-166 bSELECTOR-167 bSELECTOR-168
    bSELECTOR-169 bSELECTOR-17 bSELECTOR-170 bSELECTOR-171 bSELECTOR-172 bSELECTOR-173
    bSELECTOR-174 bSELECTOR-175 bSELECTOR-176 bSELECTOR-177 bSELECTOR-178 bSELECTOR-179
    bSELECTOR-18 bSELECTOR-180 bSELECTOR-181 bSELECTOR-182 bSELECTOR-183 bSELECTOR-184
    bSELECTOR-185 bSELECTOR-186 bSELECTOR-187 bSELECTOR-188 bSELECTOR-189 bSELECTOR-19
    bSELECTOR-190 bSELECTOR-191 bSELECTOR-192 bSELECTOR-193 bSELECTOR-194 bSELECTOR-195
    bSELECTOR-196 bSELECTOR-197 bSELECTOR-198 bSELECTOR-199 bSELECTOR-2 bSELECTOR-20
    bSELECTOR-200 bSELECTOR-201 bSELECTOR-202 bSELECTOR-203 bSELECTOR-204 bSELECTOR-205
    bSELECTOR-206 bSELECTOR-207 bSELECTOR-208 bSELECTOR-209 bSELECTOR-21 bSELECTOR-210
    bSELECTOR-211 bSELECTOR-212 bSELECTOR-213 bSELECTOR-214 bSELECTOR-215 bSELECTOR-216
    bSELECTOR-217 bSELECTOR-218 bSELECTOR-219 bSELECTOR-22 bSELECTOR-220 bSELECTOR-221
    bSELECTOR-222 bSELECTOR-223 bSELECTOR-224 bSELECTOR-225 bSELECTOR-226 bSELECTOR-227
    bSELECTOR-228 bSELECTOR-229 bSELECTOR-23 bSELECTOR-230 bSELECTOR-231 bSELECTOR-232
    bSELECTOR-233 bSELECTOR-234 bSELECTOR-235 bSELECTOR-236 bSELECTOR-237 bSELECTOR-238
    bSELECTOR-239 bSELECTOR-24 bSELECTOR-240 bSELECTOR-241 bSELECTOR-242 bSELECTOR-243
    bSELECTOR-244 bSELECTOR-245 bSELECTOR-246 bSELECTOR-247 bSELECTOR-248 bSELECTOR-249
    bSELECTOR-25 bSELECTOR-250 bSELECTOR-251 bSELECTOR-252 bSELECTOR-253 bSELECTOR-254
    bSELECTOR-255 bSELECTOR-256 bSELECTOR-26 bSELECTOR-27 bSELECTOR-28 bSELECTOR-29 bSELECTOR-3
    bSELECTOR-30 bSELECTOR-31 bSELECTOR-32 bSELECTOR-33 bSELECTOR-34 bSELECTOR-35 bSELECTOR-36
    bSELECTOR-37 bSELECTOR-38 bSELECTOR-39 bSELECTOR-4 bSELECTOR-40 bSELECTOR-41 bSELECTOR-42
    bSELECTOR-43 bSELECTOR-44 bSELECTOR-45 bSELECTOR-46 bSELECTOR-47 bSELECTOR-48 bSELECTOR-49
    bSELECTOR-5 bSELECTOR-50 bSELECTOR-51 bSELECTOR-52 bSELECTOR-53 bSELECTOR-54 bSELECTOR-55
    bSELECTOR-56 bSELECTOR-57 bSELECTOR-58 bSELECTOR-59 bSELECTOR-6 bSELECTOR-60 bSELECTOR-61
    bSELECTOR-62 bSELECTOR-63 bSELECTOR-64 bSELECTOR-65 bSELECTOR-66 bSELECTOR-67 bSELECTOR-68
    bSELECTOR-69 bSELECTOR-7 bSELECTOR-70 bSELECTOR-71 bSELECTOR-72 bSELECTOR-73 bSELECTOR-74
    bSELECTOR-75 bSELECTOR-76 bSELECTOR-77 bSELECTOR-78 bSELECTOR-79 bSELECTOR-8 bSELECTOR-80
    bSELECTOR-81 bSELECTOR-82 bSELECTOR-83 bSELECTOR-84 bSELECTOR-85 bSELECTOR-86 bSELECTOR-87
    bSELECTOR-88 bSELECTOR-89 bSELECTOR-9 bSELECTOR-90 bSELECTOR-91 bSELECTOR-92 bSELECTOR-93
    bSELECTOR-94 bSELECTOR-95 bSELECTOR-96 bSELECTOR-97 bSELECTOR-98 bSELECTOR-99 aVECTOR OR
    CROSS PRODUCT aVEDIC SIGN ANUSVARA ANTARGOMUKHA dBAHIRGOMUKHA dUBHAYATO MUKHA dVAMAGOMUKHA
    eWITH TAIL cARDHAVISARGA cATIKRAMA cDOUBLE ANUSVARA ANTARGOMUKHA cHEXIFORM LONG ANUSVARA
    cJIHVAMULIYA cLONG ANUSVARA cNIHSHVASA cREVERSED VISARGA ANUDATTA eUDATTA cROTATED
    ARDHAVISARGA cRTHANG LONG ANUSVARA cTIRYAK cUPADHMANIYA cVISARGA ANUDATTA eWITH TAIL
    dSVARITA dUDATTA eWITH TAIL cYAJURVEDIC MIDLINE SVARITA bTONE ATHARVAVEDIC INDEPENDENT
    SVARITA cCANDRA ABOVE dBELOW cDOT BELOW cDOUBLE RING ABOVE dSVARITA cKARSHANA cKATHAKA
    ANUDATTA cPRENKHA cRIGVEDIC KASHMIRI INDEPENDENT SVARITA cRING ABOVE cSHARA cTHREE DOTS
    BELOW cTRIPLE SVARITA cTWO DOTS BELOW cYAJURVEDIC AGGRAVATED INDEPENDENT SVARITA
    dINDEPENDENT SVARITA dKATHAKA INDEPENDENT SVARITA gSCHROEDER aVERSICLE aVERTICAL BAR BESIDE
    RIGHT TRIANGLE cDOUBLE LEFT TURNSTILE cTRIPLE RIGHT TURNSTILE cWITH HORIZONTAL STROKE
    bELLIPSIS bFOUR DOTS bIDEOGRAPHIC ITERATION MARK bKANA REPEAT MARK eLOWER HALF eUPPER HALF
    dWITH VOICED SOUND MARK hUPPER HALF bLINE cEXTENSION cWITH CIRCLE ABOVE eBELOW dMIDDLE DOT
    bMALE WITH STROKE SIGN bONE EIGHTH BLOCK-2 dBLOCK-3 dBLOCK-4 dBLOCK-5 dBLOCK-6 dBLOCK-7 bSIX
    DOTS bTAB KEY bTABULATION cSET bTILDE bTRAFFIC LIGHT bZIGZAG LINE aVERY BOLD GREEK CROSS
    bHEAVY EIGHT POINTED BLACK STAR dSPOKED ASTERISK cFIVE SPOKED ASTERISK cGREEK CROSS cREVERSE
    SOLIDUS cSALTIRE cSIX SPOKED ASTERISK cSOLIDUS cWHITE CIRCLE dSQUARE bMUCH GREATER-THAN
    cLESS-THAN aVESTA aVIBRATION MODE aVICTORY HAND aVIDEO CAMERA bGAME aVIDEOCASSETTE
    aVIETNAMESE ALTERNATE READING MARK CA eNHAY aVIEWDATA SQUARE aVIOLIN aVIRGO aVITHKUQI
    CAPITAL LETTER A dBBE dBE dCE dCHE dDE dDHE dE dEI dFE dGA dHA dHHA dI dIJE dJE dKA dLA dLLA
    dME dNE dNJE dO dPE dQA dRE dSE dSHE dTE dTHE dU dVE dXE dY dZE bSMALL LETTER A dBBE dBE dCE
    dCHE dDE dDHE dE dEI dFE dGA dHA dHHA dI dIJE dJE dKA dLA dLLA dME dNE dNJE dO dPE dQA dRE
    dSE dSHE dTE dTHE dU dVE dXE dY dZE aVOIDED GREEK CROSS aVOLCANO aVOLLEYBALL aVOLUME
    INTEGRAL aVS1 aVS10 aVS100 aVS101 aVS102 aVS103 aVS104 aVS105 aVS106 aVS107 aVS108 aVS109
    aVS11 aVS110 aVS111 aVS112 aVS113 aVS114 aVS115 aVS116 aVS117 aVS118 aVS119 aVS12 aVS120
    aVS121 aVS122 aVS123 aVS124 aVS125 aVS126 aVS127 aVS128 aVS129 aVS13 aVS130 aVS131 aVS132
    aVS133 aVS134 aVS135 aVS136 aVS137 aVS138 aVS139 aVS14 aVS140 aVS141 aVS142 aVS143 aVS144
    aVS145 aVS146 aVS147 aVS148 aVS149 aVS15 aVS150 aVS151 aVS152 aVS153 aVS154 aVS155 aVS156
    aVS157 aVS158 aVS159 aVS16 aVS160 aVS161 aVS162 aVS163 aVS164 aVS165 aVS166 aVS167 aVS168
    aVS169 aVS17 aVS170 aVS171 aVS172 aVS173 aVS174 aVS175 aVS176 aVS177 aVS178 aVS179 aVS18
    aVS180 aVS181 aVS182 aVS183 aVS184 aVS185 aVS186 aVS187 aVS188 aVS189 aVS19 aVS190 aVS191
    aVS192 aVS193 aVS194 aVS195 aVS196 aVS197 aVS198 aVS199 aVS2 aVS20 aVS200 aVS201 aVS202
    aVS203 aVS204 aVS205 aVS206 aVS207 aVS208 aVS209 aVS21 aVS210 aVS211 aVS212 aVS213 aVS214
    aVS215 aVS216 aVS217 aVS218 aVS219 aVS22 aVS220 aVS221 aVS222 aVS223 aVS224 aVS225 aVS226
    aVS227 aVS228 aVS229 aVS23 aVS230 aVS231 aVS232 aVS233 aVS234 aVS235 aVS236 aVS237 aVS238
    aVS239 aVS24 aVS240 aVS241 aVS242 aVS243 aVS244 aVS245 aVS246 aVS247 aVS248 aVS249 aVS25
    aVS250 aVS251 aVS252 aVS253 aVS254 aVS255 aVS256 aVS26 aVS27 aVS28 aVS29 aVS3 aVS30 aVS31
    aVS32 aVS33 aVS34 aVS35 aVS36 aVS37 aVS38 aVS39 aVS4 aVS40 aVS41 aVS42 aVS43 aVS44 aVS45
    aVS46 aVS47 aVS48 aVS49 aVS5 aVS50 aVS51 aVS52 aVS53 aVS54 aVS55 aVS56 aVS57 aVS58 aVS59
    aVS6 aVS60 aVS61 aVS62 aVS63 aVS64 aVS65 aVS66 aVS67 aVS68 aVS69 aVS7 aVS70 aVS71 aVS72
    aVS73 aVS74 aVS75 aVS76 aVS77 aVS78 aVS79 aVS8 aVS80 aVS81 aVS82 aVS83 aVS84 aVS85 aVS86
    aVS87 aVS88 aVS89 aVS9 aVS90 aVS91 aVS92 aVS93 aVS94 aVS95 aVS96 aVS97 aVS98 aVS99 aVT aVTS
    aVULCANUS aVULGAR FRACTION FIVE EIGHTHS dSIXTHS cFOUR FIFTHS cONE EIGHTH dFIFTH dHALF dNINTH
    dQUARTER dSEVENTH dSIXTH dTENTH dTHIRD cSEVEN EIGHTHS cTHREE EIGHTHS dFIFTHS dQUARTERS cTWO
    FIFTHS dTHIRDS cZERO THIRDS aWAFFLE aWANCHO DIGIT EIGHT cFIVE cFOUR cNINE cONE cSEVEN cSIX
    cTHREE cTWO cZERO bLETTER A cAA cAAN cAANG cANG cAU cBA cCA cDA cE cEN cFA cGA cHA cI cING
    cJA cKA cKHA cLA cLLHA cMA cNA cNGA cNYA cO cON cONG cPA cPHA cRA cSA cSHA cTA cTHA cTRA
    cTSA cU cUEN cVA cWA cYA cYIH cZA bNGUN SIGN bTONE KOI cKOINI cTUP cTUPNI aWANING CRESCENT
    MOON SYMBOL bGIBBOUS MOON SYMBOL aWARANG CITI CAPITAL LETTER A eAM eANG eAT eBU eDA eE eENN
    eENY eGA eHAR eHIYO eHOLO eHORR eII eKO eNGAA eNUNG eO eODD ePU eSII eSSUU eTTE eUC eUU
    eVIYO eWI eYA eYO eYU eYUJ cDIGIT EIGHT dFIVE dFOUR dNINE dONE dSEVEN dSIX dTHREE dTWO dZERO
    cNUMBER EIGHTY dFIFTY dFORTY dNINETY dSEVENTY dSIXTY dTEN dTHIRTY dTWENTY cOM cSMALL LETTER
    A eAM eANG eAT eBU eDA eE eENN eENY eGA eHAR eHIYO eHOLO eHORR eII eKO eNGAA eNUNG eO eODD
    ePU eSII eSSUU eTTE eUC eUU eVIYO eWI eYA eYO eYU eYUJ aWARNING SIGN aWASTEBASKET aWATCH
    aWATER BUFFALO bCLOSET bPOLO bWAVE aWATERMELON aWAVE ARROW POINTING DIRECTLY LEFT eRIGHT
    bDASH aWAVING BLACK FLAG bHAND SIGN bWHITE FLAG aWAVY DASH bLINE bLOW LINE bOVERLINE aWAXING
    CRESCENT MOON SYMBOL bGIBBOUS MOON SYMBOL aWEARY CAT FACE bFACE aWEDDING aWEDGE-TAILED
    RIGHTWARDS ARROW aWEIERSTRASS ELLIPTIC FUNCTION aWEIGHT LIFTER aWEST SYRIAC CROSS aWHALE
    aWHEEL bOF DHARMA aWHEELCHAIR SYMBOL aWHITE ARROW SHAFT WIDTH ONE eTWO THIRDS bBULLET bCHESS
    BISHOP dROTATED NINETY DEGREES eTWO HUNDRED SEVENTY DEGREES cEQUIHOPPER dROTATED NINETY
    DEGREES cKING dROTATED NINETY DEGREES eTWO HUNDRED SEVENTY DEGREES cKNIGHT dROTATED
    FORTY-FIVE DEGREES eNINETY DEGREES eONE HUNDRED THIRTY-FIVE DEGREES eTHREE HUNDRED FIFTEEN
    DEGREES eTWO HUNDRED SEVENTY DEGREES gTWENTY-FIVE DEGREES cKNIGHT-BISHOP cKNIGHT-QUEEN
    cKNIGHT-ROOK cPAWN dROTATED NINETY DEGREES eTWO HUNDRED SEVENTY DEGREES cQUEEN dROTATED
    NINETY DEGREES eTWO HUNDRED SEVENTY DEGREES cROOK dROTATED NINETY DEGREES eTWO HUNDRED
    SEVENTY DEGREES cTURNED BISHOP dKING dKNIGHT dPAWN dQUEEN dROOK bCIRCLE cCONTAINING BLACK
    SMALL CIRCLE cWITH DOT RIGHT dDOWN ARROW dLOWER LEFT QUADRANT eRIGHT QUADRANT dTWO DOTS
    dUPPER LEFT QUADRANT eRIGHT QUADRANT bCLUB SUIT bCONCAVE-SIDED DIAMOND dWITH LEFTWARDS TICK
    eRIGHTWARDS TICK bDIAMOND cCONTAINING BLACK MEDIUM DIAMOND eSMALL DIAMOND eVERY SMALL
    DIAMOND cIN SQUARE cSUIT cWITH CENTRED DOT bDOWN POINTING BACKHAND INDEX dINDEX dLEFT HAND
    INDEX bDOWN-POINTING SMALL TRIANGLE cTRIANGLE bDRAUGHTS KING cMAN bEXCLAMATION MARK ORNAMENT
    bFLAG cWITH HORIZONTAL MIDDLE BLACK STRIPE bFLORETTE bFLOWER bFOUR POINTED CUSP dSTAR
    bFROWNING FACE bHARD SHELL FLOPPY DISK bHEART cSUIT bHEAVY CHECK MARK cSALTIRE WITH ROUNDED
    CORNERS bHEXAGON bHORIZONTAL ELLIPSE bHOURGLASS bLARGE SQUARE bLATIN CROSS bLEFT LANE MERGE
    cPOINTING BACKHAND INDEX dINDEX bLEFT-POINTING POINTER cSMALL TRIANGLE cTRIANGLE bLOZENGE
    CONTAINING BLACK SMALL LOZENGE bMEDIUM DIAMOND cLOZENGE cSMALL SQUARE cSQUARE cSTAR bMOON
    SELENA bNIB bPARALLELOGRAM bPENNANT bPENTAGON bQUESTION MARK ORNAMENT bRECTANGLE bRIGHT
    POINTING BACKHAND INDEX dINDEX bRIGHT-POINTING PENTAGON cPOINTER cSMALL TRIANGLE cTRIANGLE
    bSCISSORS bSESAME DOT bSHOGI PIECE bSMALL LOZENGE cSQUARE cSTAR bSMILING FACE bSPADE SUIT
    bSQUARE cBUTTON cCONTAINING BLACK MEDIUM SQUARE eSMALL SQUARE eVERY SMALL SQUARE cWITH
    CENTRE VERTICAL LINE dLEFTWARDS TICK dLOWER LEFT QUADRANT eRIGHT QUADRANT dRIGHTWARDS TICK
    dROUNDED CORNERS dUPPER LEFT QUADRANT eRIGHT QUADRANT dVERTICAL BISECTING LINE bSTAR bSUN
    cBEHIND CLOUD eWITH RAIN cWITH RAYS dSMALL CLOUD bTELEPHONE bTOUCHTONE TELEPHONE bTRAPEZIUM
    bTRIANGLE CONTAINING SMALL WHITE TRIANGLE bTWO-WAY LEFT WAY TRAFFIC bUP POINTING BACKHAND
    INDEX dINDEX bUP-POINTING CHEVRON cSMALL TRIANGLE cTRIANGLE dWITH DOT bVERTICAL BAR cELLIPSE
    cRECTANGLE bVERY SMALL SQUARE aWHITE-FEATHERED RIGHTWARDS ARROW aWIDE-HEADED DOWNWARDS BARB
    ARROW cHEAVY BARB ARROW cLIGHT BARB ARROW cMEDIUM BARB ARROW cVERY HEAVY BARB ARROW
    bLEFTWARDS BARB ARROW cHEAVY BARB ARROW cLIGHT BARB ARROW cMEDIUM BARB ARROW cVERY HEAVY
    BARB ARROW bNORTH EAST BARB ARROW dHEAVY BARB ARROW dLIGHT BARB ARROW dMEDIUM BARB ARROW
    dVERY HEAVY BARB ARROW cWEST BARB ARROW dHEAVY BARB ARROW dLIGHT BARB ARROW dMEDIUM BARB
    ARROW dVERY HEAVY BARB ARROW bRIGHTWARDS BARB ARROW cHEAVY BARB ARROW cLIGHT BARB ARROW
    cMEDIUM BARB ARROW cVERY HEAVY BARB ARROW bSOUTH EAST BARB ARROW dHEAVY BARB ARROW dLIGHT
    BARB ARROW dMEDIUM BARB ARROW dVERY HEAVY BARB ARROW cWEST BARB ARROW dHEAVY BARB ARROW
    dLIGHT BARB ARROW dMEDIUM BARB ARROW dVERY HEAVY BARB ARROW bUPWARDS BARB ARROW cHEAVY BARB
    ARROW cLIGHT BARB ARROW cMEDIUM BARB ARROW cVERY HEAVY BARB ARROW aWIGGLY VERTICAL LINE
    aWILTED FLOWER aWIND BLOWING FACE bCHIME aWINDOW aWINE GLASS aWINKING FACE aWIRED KEYBOARD
    aWJ aWOLF FACE aWOMAN bWITH BUNNY EARS aWOMANS BOOTS bCLOTHES bHAT bSANDAL aWOMENS SYMBOL
    aWON SIGN aWOOD aWORD JOINER bSEPARATOR MIDDLE DOT aWORLD MAP aWORM aWORRIED FACE aWRAPPED
    PRESENT aWREATH PRODUCT aWRENCH aWRESTLERS aWRITING HAND aX IN A RECTANGLE BOX aX-RAY
    aXIANGQI BLACK CANNON cCHARIOT cELEPHANT cGENERAL cHORSE cMANDARIN cSOLDIER bRED CANNON
    cCHARIOT cELEPHANT cGENERAL cHORSE cMANDARIN cSOLDIER aXOR aYAWNING FACE aYELLOW HEART aYEN
    SIGN aYEZIDI COMBINING HAMZA MARK cMADDA MARK bHYPHENATION MARK bLETTER BE cCHHIM cCHIM cCIM
    cDAD cDAL cELIF cET cEW cEYN cFA cGAF cHAY cHHA cJA cKAF cKHAF cLAM dWITH DOT ABOVE cMIM
    cNUN cOW cPE cPHE cQAF cRA cRHA cSAD cSE cSHIN cSIN cTA cTHE cUM cVA dALTERNATE FORM cWAW
    cXA cXHEYN cYOT dWITH CIRCUMFLEX ABOVE cZA cZAL cZE aYI RADICAL BBUT cBUR cCHE cCIP cCUOP
    cCY cCYP cCYT cDDUR cDU cGA cGEP cGGOP cGGUO cGOT cHMO cHXIT cHXOP cHXUO cJJIE cJJUT cJJY
    cJO cKE cKIT cLI cLIE cLYR cMI cMOP cNBIE cNYIP cNYOP cNZUP cOP cPUT cPYT cQOT cSHAT cSHOP
    cSHUR cSHY cSSI cTAT cTU cVEP cVUR cWO cYIT cYO cZA cZOT cZUP cZUR cZZIET bSYLLABLE A cAP
    cAT cAX cBA cBAP cBAT cBAX cBBA cBBAP cBBAT cBBAX cBBE cBBEP cBBEX cBBI cBBIE cBBIEP cBBIET
    cBBIEX cBBIP cBBIT cBBIX cBBO cBBOP cBBOT cBBOX cBBU cBBUO cBBUOP cBBUOX cBBUP cBBUR cBBURX
    cBBUT cBBUX cBBY cBBYP cBBYT cBBYX cBE cBEP cBEX cBI cBIE cBIEP cBIET cBIEX cBIP cBIT cBIX
    cBO cBOP cBOT cBOX cBU cBUO cBUOP cBUOX cBUP cBUR cBURX cBUT cBUX cBY cBYP cBYR cBYRX cBYT
    cBYX cCA cCAP cCAT cCAX cCE cCEP cCEX cCHA cCHAP cCHAT cCHAX cCHE cCHEP cCHET cCHEX cCHO
    cCHOP cCHOT cCHOX cCHU cCHUO cCHUOP cCHUOT cCHUOX cCHUP cCHUR cCHURX cCHUX cCHY cCHYP cCHYR
    cCHYRX cCHYT cCHYX cCI cCIE cCIEP cCIET cCIEX cCIP cCIT cCIX cCO cCOP cCOT cCOX cCU cCUO
    cCUOP cCUOX cCUP cCUR cCURX cCUT cCUX cCY cCYP cCYR cCYRX cCYT cCYX cDA cDAP cDAT cDAX cDDA
    cDDAP cDDAT cDDAX cDDE cDDEP cDDEX cDDI cDDIE cDDIEP cDDIEX cDDIP cDDIT cDDIX cDDO cDDOP
    cDDOT cDDOX cDDU cDDUO cDDUOP cDDUOX cDDUP cDDUR cDDURX cDDUT cDDUX cDE cDEP cDEX cDI cDIE
    cDIEP cDIEX cDIP cDIT cDIX cDO cDOP cDOT cDOX cDU cDUO cDUOX cDUP cDUR cDURX cDUT cDUX cE
    cEX cFA cFAP cFAT cFAX cFI cFIP cFIT cFIX cFO cFOP cFOX cFU cFUP cFUR cFURX cFUT cFUX cFY
    cFYP cFYT cFYX cGA cGAP cGAT cGAX cGE cGEP cGET cGEX cGGA cGGAP cGGAT cGGAX cGGE cGGEP cGGET
    cGGEX cGGI cGGIE cGGIEP cGGIEX cGGIT cGGIX cGGO cGGOP cGGOT cGGOX cGGU cGGUO cGGUOP cGGUOT
    cGGUOX cGGUP cGGUR cGGURX cGGUT cGGUX cGI cGIE cGIEP cGIET cGIEX cGIP cGIT cGIX cGO cGOP
    cGOT cGOX cGU cGUO cGUOP cGUOT cGUOX cGUP cGUR cGURX cGUT cGUX cHA cHAP cHAT cHAX cHE cHEP
    cHEX cHIE cHIEX cHIT cHLA cHLAP cHLAT cHLAX cHLE cHLEP cHLEX cHLI cHLIE cHLIEP cHLIEX cHLIP
    cHLIT cHLIX cHLO cHLOP cHLOX cHLU cHLUO cHLUOP cHLUOX cHLUP cHLUR cHLURX cHLUT cHLUX cHLY
    cHLYP cHLYR cHLYRX cHLYT cHLYX cHMA cHMAP cHMAT cHMAX cHMI cHMIE cHMIEP cHMIEX cHMIP cHMIT
    cHMIX cHMO cHMOP cHMOT cHMOX cHMU cHMUO cHMUOP cHMUOX cHMUP cHMUR cHMURX cHMUT cHMUX cHMY
    cHMYP cHMYR cHMYRX cHMYX cHNA cHNAP cHNAT cHNAX cHNE cHNEP cHNEX cHNI cHNIE cHNIEP cHNIET
    cHNIEX cHNIP cHNIT cHNIX cHNOP cHNOT cHNOX cHNUO cHNUOX cHNUT cHO cHOP cHOT cHOX cHUO cHUOP
    cHUOT cHUOX cHXA cHXAP cHXAT cHXAX cHXE cHXEP cHXEX cHXI cHXIE cHXIEP cHXIET cHXIEX cHXIP
    cHXIT cHXIX cHXO cHXOP cHXOT cHXOX cHXUO cHXUOP cHXUOT cHXUOX cI cIE cIEP cIET cIEX cIP cIT
    cITERATION MARK cIX cJI cJIE cJIEP cJIET cJIEX cJIP cJIT cJIX cJJI cJJIE cJJIEP cJJIET
    cJJIEX cJJIP cJJIT cJJIX cJJO cJJOP cJJOT cJJOX cJJU cJJUO cJJUOP cJJUOX cJJUP cJJUR cJJURX
    cJJUT cJJUX cJJY cJJYP cJJYT cJJYX cJO cJOP cJOT cJOX cJU cJUO cJUOP cJUOT cJUOX cJUP cJUR
    cJURX cJUT cJUX cJY cJYP cJYR cJYRX cJYT cJYX cKA cKAP cKAT cKAX cKE cKEP cKET cKEX cKI cKIE
    cKIEP cKIEX cKIP cKIT cKIX cKO cKOP cKOT cKOX cKU cKUO cKUOP cKUOX cKUP cKUR cKURX cKUT cKUX
    cLA cLAP cLAT cLAX cLE cLEP cLEX cLI cLIE cLIEP cLIET cLIEX cLIP cLIT cLIX cLO cLOP cLOT
    cLOX cLU cLUO cLUOP cLUOT cLUOX cLUP cLUR cLURX cLUT cLUX cLY cLYP cLYR cLYRX cLYT cLYX cMA
    cMAP cMAT cMAX cME cMEX cMGA cMGAP cMGAT cMGAX cMGE cMGEP cMGEX cMGIE cMGIEX cMGO cMGOP
    cMGOT cMGOX cMGU cMGUO cMGUOP cMGUOX cMGUP cMGUR cMGURX cMGUT cMGUX cMI cMIE cMIEP cMIEX
    cMIP cMIT cMIX cMO cMOP cMOT cMOX cMU cMUO cMUOP cMUOT cMUOX cMUP cMUR cMURX cMUT cMUX cMY
    cMYP cMYT cMYX cNA cNAP cNAX cNBA cNBAP cNBAT cNBAX cNBI cNBIE cNBIEP cNBIEX cNBIP cNBIT
    cNBIX cNBO cNBOP cNBOT cNBOX cNBU cNBUP cNBUR cNBURX cNBUT cNBUX cNBY cNBYP cNBYR cNBYRX
    cNBYT cNBYX cNDA cNDAP cNDAT cNDAX cNDE cNDEP cNDEX cNDI cNDIE cNDIEX cNDIP cNDIT cNDIX cNDO
    cNDOP cNDOT cNDOX cNDU cNDUP cNDUR cNDURX cNDUT cNDUX cNE cNEP cNEX cNGA cNGAP cNGAT cNGAX
    cNGE cNGEP cNGEX cNGIE cNGIEP cNGIEX cNGO cNGOP cNGOT cNGOX cNGUO cNGUOT cNGUOX cNI cNIE
    cNIEP cNIEX cNIP cNIT cNIX cNJI cNJIE cNJIEP cNJIET cNJIEX cNJIP cNJIT cNJIX cNJO cNJOP
    cNJOT cNJOX cNJU cNJUO cNJUOX cNJUP cNJUR cNJURX cNJUX cNJY cNJYP cNJYR cNJYRX cNJYT cNJYX
    cNO cNOP cNOT cNOX cNRA cNRAP cNRAT cNRAX cNRE cNREP cNRET cNREX cNRO cNROP cNROX cNRU cNRUP
    cNRUR cNRURX cNRUT cNRUX cNRY cNRYP cNRYR cNRYRX cNRYT cNRYX cNU cNUO cNUOP cNUOX cNUP cNUR
    cNURX cNUT cNUX cNYI cNYIE cNYIEP cNYIET cNYIEX cNYIP cNYIT cNYIX cNYO cNYOP cNYOT cNYOX
    cNYU cNYUO cNYUOP cNYUOX cNYUP cNYUT cNYUX cNZA cNZAP cNZAT cNZAX cNZE cNZEX cNZI cNZIE
    cNZIEP cNZIEX cNZIP cNZIT cNZIX cNZOP cNZOX cNZU cNZUO cNZUOX cNZUP cNZUR cNZURX cNZUX cNZY
    cNZYP cNZYR cNZYRX cNZYT cNZYX cO cOP cOT cOX cPA cPAP cPAT cPAX cPI cPIE cPIEP cPIEX cPIP
    cPIT cPIX cPO cPOP cPOT cPOX cPU cPUO cPUOP cPUOX cPUP cPUR cPURX cPUT cPUX cPY cPYP cPYR
    cPYRX cPYT cPYX cQI cQIE cQIEP cQIET cQIEX cQIP cQIT cQIX cQO cQOP cQOT cQOX cQU cQUO cQUOP
    cQUOT cQUOX cQUP cQUR cQURX cQUT cQUX cQY cQYP cQYR cQYRX cQYT cQYX cRA cRAP cRAT cRAX cRE
    cREP cREX cRO cROP cROT cROX cRRA cRRAX cRRE cRREP cRRET cRREX cRRO cRROP cRROT cRROX cRRU
    cRRUO cRRUOX cRRUP cRRUR cRRURX cRRUT cRRUX cRRY cRRYP cRRYR cRRYRX cRRYT cRRYX cRU cRUO
    cRUOP cRUOX cRUP cRUR cRURX cRUT cRUX cRY cRYP cRYR cRYRX cRYT cRYX cSA cSAP cSAT cSAX cSE
    cSEP cSEX cSHA cSHAP cSHAT cSHAX cSHE cSHEP cSHET cSHEX cSHO cSHOP cSHOT cSHOX cSHU cSHUO
    cSHUOP cSHUOX cSHUP cSHUR cSHURX cSHUT cSHUX cSHY cSHYP cSHYR cSHYRX cSHYT cSHYX cSI cSIE
    cSIEP cSIEX cSIP cSIT cSIX cSO cSOP cSOT cSOX cSSA cSSAP cSSAT cSSAX cSSE cSSEP cSSEX cSSI
    cSSIE cSSIEP cSSIEX cSSIP cSSIT cSSIX cSSO cSSOP cSSOT cSSOX cSSU cSSUP cSSUT cSSUX cSSY
    cSSYP cSSYR cSSYRX cSSYT cSSYX cSU cSUO cSUOP cSUOX cSUP cSUR cSURX cSUT cSUX cSY cSYP cSYR
    cSYRX cSYT cSYX cTA cTAP cTAT cTAX cTE cTEP cTEX cTI cTIE cTIEP cTIEX cTIP cTIT cTIX cTO
    cTOP cTOT cTOX cTU cTUO cTUOP cTUOT cTUOX cTUP cTUR cTURX cTUT cTUX cUO cUOP cUOX cVA cVAP
    cVAT cVAX cVEP cVEX cVI cVIE cVIEP cVIET cVIEX cVIP cVIT cVIX cVO cVOP cVOT cVOX cVU cVUP
    cVUR cVURX cVUT cVUX cVY cVYP cVYR cVYRX cVYT cVYX cWA cWAP cWAT cWAX cWE cWEP cWEX cWO cWOP
    cWOX cWU cWUO cWUOP cWUOX cXI cXIE cXIEP cXIET cXIEX cXIP cXIT cXIX cXO cXOP cXOT cXOX cXUO
    cXUOX cXY cXYP cXYR cXYRX cXYT cXYX cYI cYIE cYIEP cYIET cYIEX cYIP cYIT cYIX cYO cYOP cYOT
    cYOX cYU cYUO cYUOP cYUOT cYUOX cYUP cYUR cYURX cYUT cYUX cYY cYYP cYYR cYYRX cYYT cYYX cZA
    cZAP cZAT cZAX cZE cZEP cZEX cZHA cZHAP cZHAT cZHAX cZHE cZHEP cZHET cZHEX cZHO cZHOP cZHOT
    cZHOX cZHU cZHUO cZHUOP cZHUOX cZHUP cZHUR cZHURX cZHUT cZHUX cZHY cZHYP cZHYR cZHYRX cZHYT
    cZHYX cZI cZIE cZIEP cZIEX cZIP cZIT cZIX cZO cZOP cZOT cZOX cZU cZUO cZUOP cZUOX cZUP cZUR
    cZURX cZUT cZUX cZY cZYP cZYR cZYRX cZYT cZYX cZZA cZZAP cZZAT cZZAX cZZE cZZEP cZZEX cZZI
    cZZIE cZZIEP cZZIET cZZIEX cZZIP cZZIT cZZIX cZZO cZZOP cZZOX cZZU cZZUP cZZUR cZZURX cZZUX
    cZZY cZZYP cZZYR cZZYRX cZZYT cZZYX aYIN YANG aYO-YO aZ NOTATION BAG MEMBERSHIP cDOMAIN
    ANTIRESTRICTION cLEFT BINDING BRACKET dIMAGE BRACKET cRANGE ANTIRESTRICTION cRELATIONAL
    COMPOSITION cRIGHT BINDING BRACKET dIMAGE BRACKET cSCHEMA COMPOSITION dPIPING dPROJECTION
    cSPOT cTYPE COLON aZANABAZAR SQUARE CLOSING DOUBLE-LINED HEAD MARK dHEAD MARK cCLUSTER-FINAL
    LETTER LA eRA eVA eYA cCLUSTER-INITIAL LETTER RA cFINAL CONSONANT MARK cINITIAL DOUBLE-LINED
    HEAD MARK dHEAD MARK cLETTER -A dA dBA dBHA dCA dCHA dDA dDDA dDDHA dDHA dDZA dDZHA dGA dGHA
    dHA dJA dKA dKHA dKSSA dLA dMA dNA dNGA dNNA dNYA dPA dPHA dRA dSA dSHA dSSA dTA dTHA dTSA
    dTSHA dTTA dTTHA dVA dYA dZA dZHA cMARK DOUBLE SHAD dLONG TSHEG dSHAD dTSHEG cSIGN ANUSVARA
    dCANDRA WITH ORNAMENT dCANDRABINDU eWITH ORNAMENT dVIRAMA dVISARGA cSUBJOINER cVOWEL LENGTH
    MARK dSIGN AI eAU eE eI eO eOE eREVERSED I eU eUE aZEBRA FACE aZERO WIDTH JOINER cNO-BREAK
    SPACE cNON-JOINER cSPACE aZEUS aZIPPER-MOUTH FACE aZNAMENNY COMBINING ATTACHING VERTICAL
    OMET cLOWER TONAL RANGE INDICATOR cMARK BORZAYA dCHASHKA ePOLNAYA dCURVED OMET dDEMESTVENNY
    ZADERZHKA dDVOETOCHIE dGORAZDO NIZKO ON LEFT gRIGHT fS KRYZHEM ON LEFT iRIGHT eVYSOKO
    dKACHKA dKRYZH eON LEFT dKUPNAYA dLOMKA dMALO POVYSHE ON LEFT gRIGHT fS KHOKHLOM ON LEFT
    iRIGHT gKRYZHEM fSTRANNO dNIZKO ON LEFT fRIGHT eS KRYZHEM ON LEFT hRIGHT dOBLACHKO dON
    dOTSECHKA dPODCHASHIE eWITH VERTICAL STROKE dPODVERTKA dPOVYSHE ON LEFT fRIGHT eS KHOKHLOM
    ON LEFT hRIGHT fKRYZHEM eSTRANNO dRAVNO dRAZSEKA dSKOBA dSOROCHYA NOZHKA dSREDNE ON LEFT
    fRIGHT dSTRANNO MALO POVYSHE dTIKHAYA dTOCHKA dTSATA ON LEFT fRIGHT eS KRYZHEM dUDARKA
    dVYSOKO ON LEFT fRIGHT eS KHOKHLOM ON LEFT hRIGHT fKRYZHEM dZADERZHKA dZELO dZEVOK cTONAL
    RANGE MARK MRACHNO fSVETLO fTRESVETLO bNEUME CHASHKA cCHELYUSTKA cDEMESTVENNY KLYUCH
    cDERBITSA cDOUBLE ZAPYATAYA cDUDA cDVA V CHELNU cFITA cGOLUBCHIK BORZY dMRACHNY dSVETLY
    dTIKHY dTRESVETLY cKHAMILO cKLYUCH cKOBYLA cKRYUK dTIKHY cKRYZH cKUFISMA cMECHIK
    dKLYUCHENEPOSTOYANNY dKLYUCHEPOVODNY dKLYUCHEVOY dPOVODNY cNEMKA cOBLAKO cOSOKA dKLYUCHEVAYA
    NEPOSTOYANNAYA eSVETLAYA dKRYUKOVAYA SVETLAYA dSVETLAYA dTRESVETLAYA cPALKA cPARAKLIT cPAUK
    cPEREVODKA dNEPOSTOYANNAYA cPODCHASHIE cPOLKULIZMY cREVERSED CHELYUSTKA cROG cSKAMEYTSA
    DVOECHELNAYA KLYUCHEVAYA eNEPOSTOYANNAYA ePROSTAYA eSVETLAYA dKLYUCHENEPOSTOYANNAYA
    dKLYUCHEVAYA SVETLAYA eTIKHAYA dMRACHNAYA dSVETLAYA dTIKHAYA dTRESVETLAYA cSLOZHITIE dS
    KRYZHEM eZAPYATOY dZAKRYTOE cSTATYA dNEPOSTOYANNAYA dS DVUMYA ZAPYATYMI eKRYZHEM fI ZAPYATOY
    eROGOM eZAPYATOY fI KRYZHEM gPODCHASHIEM dZAKRYTAYA eS ZAPYATOY cSTOPITSA dS OCHKOM dWITH
    SOROCHYA NOZHKA cSTRELA DVOECHELNAYA eKLYUCHEVAYA dDVOECHELNOKRYZHEVAYA dDVOECHELNOPOVODNAYA
    eKLYUCHEVAYA dGROMNAYA eWITH SINGLE ZAPYATAYA dGROMOKRYZHEVAYA ePOVODNAYA dGROMOPOVODNAYA
    eWITH DOUBLE ZAPYATAYA fSINGLE ZAPYATAYA dKLYUCHENEPOSTOYANNAYA dKLYUCHEPOVODNAYA
    dKRYUKOVAYA eGROMNAYA fWITH SINGLE ZAPYATAYA eGROMOKRYZHEVAYA fPOVODNAYA eGROMOPOVODNAYA
    fWITH DOUBLE ZAPYATAYA gSINGLE ZAPYATAYA ePOVODNAYA eTRYASKA dKRYZHEVAYA dMRACHNOTIKHAYA
    dNEPOSTOYANNAYA dPOLUPOVODNAYA dPOVODNAYA dPROSTAYA dTIKHAYA PUTNAYA dTRYASOGLASNAYA
    dTRYASOPOVODNAYA dTRYASOSTRELNAYA cVRAKHIYA KLYUCHEVAYA MRACHNAYA ePROSTAYA eSVETLAYA
    eTRESVETLAYA dMRACHNAYA dPROSTAYA dSVETLAYA dTRESVETLAYA cZANOZHEK cZAPYATAYA cZMEYTSA
    bPRIZNAK MODIFIER DIRECTION FLIP dKRYZH dLEVEL-2 dLEVEL-3 dROG aZOMBIE aZWJ aZWNBSP aZWNJ
    aZWSP"

end SecurityRules.CharacterName
