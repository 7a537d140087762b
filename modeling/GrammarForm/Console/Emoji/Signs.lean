/-!
# Signs and symbols

Emoji that are signs: marks, arrows, keys, letters and the older symbols of the first plane.
Each word is a name with its emoji.

## Main definitions

* `Emoji.signs` : the names of signs with their emoji.
-/

namespace GrammarForm.Console.Emoji

/-- The names of signs with their emoji. -/
def signs : String :=
  "a=🅰 a_button_(blood_type)=🅰 ab=🆎 ab_button_(blood_type)=🆎 accept=🉑 airplane=✈ alarm_clock=⏰
   alembic=⚗ anchor=⚓ aquarius=♒ aries=♈ arrow_backward=◀ arrow_double_down=⏬ arrow_double_up=⏫
   arrow_down=⬇ arrow_forward=▶ arrow_heading_down=⤵ arrow_heading_up=⤴ arrow_left=⬅
   arrow_lower_left=↙ arrow_lower_right=↘ arrow_right=➡ arrow_right_hook=↪ arrow_up=⬆
   arrow_up_down=↕ arrow_upper_left=↖ arrow_upper_right=↗ atom_symbol=⚛ b=🅱
   b_button_(blood_type)=🅱 balance_scale=⚖ ballot_box_with_check=☑ bangbang=‼ baseball=⚾
   biohazard=☣ biohazard_sign=☣ black_circle=⚫ black_circle_for_record=⏺ black_joker=🃏
   black_large_square=⬛ black_left__pointing_double_triangle_with_vertical_bar=⏮
   black_medium-small_square=◾ black_medium_small_square=◾ black_medium_square=◼ black_nib=✒
   black_right__pointing_double_triangle_with_vertical_bar=⏭
   black_right__pointing_triangle_with_double_vertical_bar=⏯ black_small_square=▪
   black_square_for_stop=⏹ boat=⛵ cancer=♋ capricorn=♑ chains=⛓ chess_pawn=♟ church=⛪
   circled_m=Ⓜ cl=🆑 cl_button=🆑 cloud=☁ cloud_with_lightning_and_rain=⛈ club_suit=♣ clubs=♣
   coffee=☕ coffin=⚰ comet=☄ congratulations=㊗ cool=🆒 cool_button=🆒 copyright=© cross_mark=❌
   cross_mark_button=❎ crossed_swords=⚔ curly_loop=➰ diamond_suit=♦ diamonds=♦
   double_curly_loop=➿ double_exclamation_mark=‼ double_vertical_bar=⏸ down-left_arrow=↙
   down-right_arrow=↘ down_arrow=⬇ eight=8️⃣ eight-pointed_star=✴ eight-spoked_asterisk=✳
   eight_pointed_black_star=✴ eight_spoked_asterisk=✳ eject_button=⏏ eject_symbol=⏏ email=✉
   envelope=✉ exclamation=❗ exclamation_mark=❗ exclamation_question_mark=⁉
   fast-forward_button=⏩ fast_down_button=⏬ fast_forward=⏩ fast_reverse_button=⏪
   fast_up_button=⏫ female_sign=♀ ferry=⛴ fist=✊ five=5️⃣ flag_in_hole=⛳ fleur-de-lis=⚜
   fleur__de__lis=⚜ fountain=⛲ four=4️⃣ free=🆓 free_button=🆓 frowning_face=☹ fuel_pump=⛽
   fuelpump=⛽ funeral_urn=⚱ gear=⚙ gemini=♊ golf=⛳ grey_exclamation=❕ grey_question=❔
   hammer_and_pick=⚒ hand=✋ heart=❤ heart_suit=♥ hearts=♥ heavy_check_mark=✔
   heavy_division_sign=➗ heavy_exclamation_mark=❗ heavy_heart_exclamation=❣
   heavy_heart_exclamation_mark_ornament=❣ heavy_large_circle=⭕ heavy_minus_sign=➖
   heavy_multiplication_x=✖ heavy_plus_sign=➕ helm_symbol=⎈ helmet_with_white_cross=⛑
   high_voltage=⚡ hot_beverage=☕ hot_springs=♨ hotsprings=♨ hourglass=⌛ hourglass_done=⌛
   hourglass_flowing_sand=⏳ hourglass_not_done=⏳ ice_skate=⛸ id=🆔 id_button=🆔
   ideograph_advantage=🉐 infinity=♾ information=ℹ information_source=ℹ interrobang=⁉
   japanese_acceptable_button=🉑 japanese_application_button=🈸 japanese_bargain_button=🉐
   japanese_congratulations_button=㊗ japanese_discount_button=🈹
   japanese_free_of_charge_button=🈚 japanese_here_button=🈁 japanese_monthly_amount_button=🈷
   japanese_no_vacancy_button=🈵 japanese_not_free_of_charge_button=🈶
   japanese_open_for_business_button=🈺 japanese_passing_grade_button=🈴
   japanese_prohibited_button=🈲 japanese_reserved_button=🈯 japanese_secret_button=㊙
   japanese_service_charge_button=🈂 japanese_vacancy_button=🈳 joker=🃏 keyboard=⌨ keycap_#=#️⃣
   keycap_*=*️⃣ keycap_0=0️⃣ keycap_1=1️⃣ keycap_2=2️⃣ keycap_3=3️⃣ keycap_4=4️⃣ keycap_5=5️⃣
   keycap_6=6️⃣ keycap_7=7️⃣ keycap_8=8️⃣ keycap_9=9️⃣ keycap_asterisk=*⃣ keycap_digit_eight=8⃣
   keycap_digit_five=5⃣ keycap_digit_four=4⃣ keycap_digit_nine=9⃣ keycap_digit_one=1⃣
   keycap_digit_seven=7⃣ keycap_digit_six=6⃣ keycap_digit_three=3⃣ keycap_digit_two=2⃣
   keycap_digit_zero=0⃣ keycap_number_sign=#⃣ koko=🈁 last_track_button=⏮ latin_cross=✝
   left-right_arrow=↔ left_arrow=⬅ left_arrow_curving_right=↪ left_right_arrow=↔
   leftwards_arrow_with_hook=↩ leo=♌ libra=♎ loop=➿ m=Ⓜ mahjong=🀄 mahjong_red_dragon=🀄
   male_sign=♂ medical_symbol=⚕ mountain=⛰ negative_squared_cross_mark=❎ new=🆕 new_button=🆕
   next_track_button=⏭ ng=🆖 ng_button=🆖 nine=9️⃣ no_entry=⛔ o=⭕ o2=🅾 o_button_(blood_type)=🅾
   ok=🆗 ok_button=🆗 one=1️⃣ ophiuchus=⛎ orthodox_cross=☦ p_button=🅿 parking=🅿
   part_alternation_mark=〽 partly_sunny=⛅ pause_button=⏸ peace_symbol=☮ pencil2=✏
   person_with_ball=⛹ phone=☎ pick=⛏ pisces=♓ play_button=▶ play_or_pause_button=⏯ point_up=☝
   question=❓ question_mark=❓ radioactive=☢ radioactive_sign=☢ record_button=⏺ recycle=♻
   recycling_symbol=♻ red_heart=❤ regional_indicator_a=🇦 regional_indicator_b=🇧
   regional_indicator_c=🇨 regional_indicator_d=🇩 regional_indicator_e=🇪 regional_indicator_f=🇫
   regional_indicator_g=🇬 regional_indicator_h=🇭 regional_indicator_i=🇮 regional_indicator_j=🇯
   regional_indicator_k=🇰 regional_indicator_l=🇱 regional_indicator_m=🇲 regional_indicator_n=🇳
   regional_indicator_o=🇴 regional_indicator_p=🇵 regional_indicator_q=🇶 regional_indicator_r=🇷
   regional_indicator_s=🇸 regional_indicator_symbol_letter_a=🇦
   regional_indicator_symbol_letter_b=🇧 regional_indicator_symbol_letter_c=🇨
   regional_indicator_symbol_letter_d=🇩 regional_indicator_symbol_letter_e=🇪
   regional_indicator_symbol_letter_f=🇫 regional_indicator_symbol_letter_g=🇬
   regional_indicator_symbol_letter_h=🇭 regional_indicator_symbol_letter_i=🇮
   regional_indicator_symbol_letter_j=🇯 regional_indicator_symbol_letter_k=🇰
   regional_indicator_symbol_letter_l=🇱 regional_indicator_symbol_letter_m=🇲
   regional_indicator_symbol_letter_n=🇳 regional_indicator_symbol_letter_o=🇴
   regional_indicator_symbol_letter_p=🇵 regional_indicator_symbol_letter_q=🇶
   regional_indicator_symbol_letter_r=🇷 regional_indicator_symbol_letter_s=🇸
   regional_indicator_symbol_letter_t=🇹 regional_indicator_symbol_letter_u=🇺
   regional_indicator_symbol_letter_v=🇻 regional_indicator_symbol_letter_w=🇼
   regional_indicator_symbol_letter_x=🇽 regional_indicator_symbol_letter_y=🇾
   regional_indicator_symbol_letter_z=🇿 regional_indicator_t=🇹 regional_indicator_u=🇺
   regional_indicator_v=🇻 regional_indicator_w=🇼 regional_indicator_x=🇽 regional_indicator_y=🇾
   regional_indicator_z=🇿 registered=® relaxed=☺ rescue_worker’s_helmet=⛑ reverse_button=◀
   rewind=⏪ right_arrow=➡ right_arrow_curving_down=⤵ right_arrow_curving_left=↩
   right_arrow_curving_up=⤴ sa=🈂 sagittarius=♐ sailboat=⛵ scales=⚖ scissors=✂ scorpio=♏
   scorpius=♏ secret=㊙ seven=7️⃣ shamrock=☘ shinto_shrine=⛩ six=6️⃣ skier=⛷
   skull_and_crossbones=☠ smiling_face=☺ snowflake=❄ snowman=☃ snowman_without_snow=⛄ soccer=⚽
   soccer_ball=⚽ sos=🆘 sos_button=🆘 spade_suit=♠ spades=♠ sparkle=❇ sparkles=✨ star=⭐
   star_and_crescent=☪ star_of_david=✡ stop_button=⏹ stopwatch=⏱ sun=☀ sun_behind_cloud=⛅
   sunny=☀ taurus=♉ telephone=☎ tent=⛺ three=3️⃣ thunder_cloud_and_rain=⛈ timer_clock=⏲ tm=™
   trade_mark=™ two=2️⃣ u5272=🈹 u5408=🈴 u55b6=🈺 u6307=🈯 u6708=🈷 u6709=🈶 u6e80=🈵 u7121=🈚 u7533=🈸
   u7981=🈲 u7a7a=🈳 umbrella=☂ umbrella_on_ground=⛱ umbrella_with_rain_drops=☔ up=🆙 up!_button=🆙
   up-down_arrow=↕ up-left_arrow=↖ up-right_arrow=↗ up_arrow=⬆ v=✌ virgo=♍ vs=🆚 vs_button=🆚
   warning=⚠ watch=⌚ wavy_dash=〰 wheel_of_dharma=☸ wheelchair=♿ wheelchair_symbol=♿
   white_check_mark=✅ white_circle=⚪ white_exclamation_mark=❕ white_frowning_face=☹
   white_heavy_check_mark=✅ white_large_square=⬜ white_medium-small_square=◽
   white_medium_small_square=◽ white_medium_square=◻ white_medium_star=⭐ white_question_mark=❔
   white_small_square=▫ x=❌ yin_yang=☯ zap=⚡ zero=0️⃣"

end GrammarForm.Console.Emoji
